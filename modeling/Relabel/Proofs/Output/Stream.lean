import Relabel.Proofs.Json.CompactText
import Relabel.Proofs.Policy
import Relabel.Report.Telling

/-!
# What another program reads

To another program a batch is told as a stream of documents, each on a line of its own. `Tells` says what such a
program reads from some bytes, and the bytes leave no choice in that (`Tells.unique`). `Account` says what the
documents tell of a batch: all entries at first, one entry after another as it is dealt with, and all entries again
with what became of them.

**A batch is told as it was** (`tells_batch`). The three views are of one list of lines, so names, kinds and order
are the same in all of them, and an entry has the same word for its outcome when it is dealt with and in the end.
What is logged in between does not get in the way: it goes to the error output.
-/

namespace Relabel

/-- What another program reads: a document in every line, and nothing behind the last line. -/
inductive Tells : Bytes → List Document → Prop
  | nothing : Tells [] []
  | line {line more : Bytes} {document : Document} {others : List Document} :
    NoControl line → Standard.Text Document.depthLimit line document → Document.read line = .ok document →
    Tells more others → Tells (line ++ Ascii.lineFeed :: more) (document :: others)

/-- The first line ends at the first line feed. -/
theorem takeWhile_line {line : Bytes} (clean : NoControl line) (more : Bytes) :
    (line ++ Ascii.lineFeed :: more).takeWhile (· != Ascii.lineFeed) = line := by
  have inside : ∀ b ∈ line, (b != Ascii.lineFeed) = true := by
    intro b hb
    rw [bne_iff_ne]
    rintro rfl
    exact clean.lineFeed_notMem hb
  rw [List.takeWhile_append_of_pos inside, List.takeWhile_cons_of_neg (by decide), List.append_nil]

/-- What tells no documents is empty, and what tells some begins with the line of the first one. -/
theorem Tells.cases_line {bytes : Bytes} {documents : List Document} (h : Tells bytes documents) :
    bytes = [] ∧ documents = [] ∨
      ∃ line more document others, bytes = line ++ Ascii.lineFeed :: more ∧ documents = document :: others ∧
        NoControl line ∧ Document.read line = .ok document ∧ Tells more others := by
  cases h with
  | nothing => exact .inl ⟨rfl, rfl⟩
  | line clean _ read others => exact .inr ⟨_, _, _, _, rfl, rfl, clean, read, others⟩

/-- **Bytes tell one thing**: where a line ends and what is read from it are not a matter of choice. There is no line
feed in a line, so that the first one in the bytes ends the first line; and of a line no more than one document can be
read. -/
theorem Tells.unique {bytes : Bytes} {documents documents' : List Document} (h : Tells bytes documents)
    (h' : Tells bytes documents') : documents' = documents := by
  induction h generalizing documents' with
  | nothing =>
    rcases h'.cases_line with ⟨-, rfl⟩ | ⟨line, more, _, _, same, -⟩
    · rfl
    · cases line <;> cases same
  | @line line more document others clean _ read _ ih =>
    rcases h'.cases_line with ⟨same, -⟩ | ⟨line', more', document', others', same, rfl, clean', read', tells'⟩
    · cases line <;> cases same
    · have first : line = line' := by
        rw [← takeWhile_line clean more, same, takeWhile_line clean' more']
      subst first
      have rest : more = more' := (List.cons.inj (List.append_cancel_left same)).2
      subst rest
      rw [read] at read'
      cases read'
      rw [ih tells']

/-- Every document is told with one line feed. -/
theorem Tells.count_lineFeed {bytes : Bytes} {documents : List Document} (h : Tells bytes documents) :
    bytes.count Ascii.lineFeed = documents.length := by
  induction h with
  | nothing => rfl
  | line clean _ _ _ ih =>
    rw [List.count_append, List.count_eq_zero.mpr clean.lineFeed_notMem, List.count_cons_self, ih,
      Nat.zero_add, List.length_cons]

/-! ## Events -/

namespace Event

/-- Events one after another, each on its line. -/
def lines (events : List Event) : Bytes := events.flatMap fun event => event.line ++ [Ascii.lineFeed]

/-- **Events are read back.** The line of an event is the one line of its document, which is read back if the document
is well-formed; all that is printed of some events tells their documents in order. -/
theorem tells_lines {events : List Event} (h : ∀ event ∈ events, event.document.WellFormed Document.depthLimit) :
    Tells (lines events) (events.map document) := by
  induction events with
  | nil => exact .nothing
  | cons event more ih =>
    obtain ⟨first, others⟩ := List.forall_mem_cons.mp h
    rw [lines, List.flatMap_cons, List.append_assoc, List.singleton_append]
    exact .line (Document.noControl_compact _) (Document.text_compact first) (Document.read_compact first) (ih others)

end Event

namespace Emission

variable {channel : Channel}

theorem printed_append (front back : List Emission) :
    printed channel (front ++ back) = printed channel front ++ printed channel back := by
  simp only [printed, List.filter_append, List.flatMap_append]

theorem printed_event (event : Event) : printed channel [.event channel event] = Event.lines [event] := by
  simp [printed, Emission.event, Event.lines]

theorem filter_here {emissions : List Emission} (h : ∀ emission ∈ emissions, emission.channel = channel) :
    emissions.filter (·.channel = channel) = emissions :=
  List.filter_eq_self.mpr fun emission there => decide_eq_true (h emission there)

theorem filter_elsewhere {emissions : List Emission} (h : ∀ emission ∈ emissions, emission.channel ≠ channel) :
    emissions.filter (·.channel = channel) = [] := by
  rw [List.filter_eq_nil_iff]
  intro emission there
  rw [decide_eq_true_eq]
  exact h emission there

/-- What goes elsewhere is not printed here. -/
theorem printed_elsewhere {emissions : List Emission} (h : ∀ emission ∈ emissions, emission.channel ≠ channel) :
    printed channel emissions = [] := by
  rw [printed, filter_elsewhere h, List.flatMap_nil]

end Emission

/-! ## Views -/

attribute [simp] Document.WellFormed.bool Document.WellFormed.string

@[simp] theorem Document.wellFormed_ofNat (n depth : Nat) : (Document.ofNat n).WellFormed depth :=
  .number (Number.wellFormed_ofNat n)

/-- Where the names of an object are known, only its values remain to be looked at. -/
theorem Document.wellFormed_of_names {depth : Nat} {members : Members} (names : List String)
    (same : members.names = names) (fit : names.Nodup ∧ names.head? ≠ some Reader.numberMark)
    (values : ∀ m ∈ members, m.2.WellFormed depth) : (Document.object members).WellFormed (depth + 1) :=
  .object (same ▸ fit.1) (same ▸ fit.2) values

open Document (wellFormed_of_names)

@[simp] theorem Entry.wellFormed_view (entry : Entry) (depth : Nat) : entry.view.WellFormed (depth + 1) :=
  wellFormed_of_names ["name", "is_dir"] rfl (by decide) (by simp)

theorem Entry.wellFormed_listingView (entries : List Entry) (depth : Nat) :
    (Entry.listingView entries).WellFormed (depth + 2) :=
  .array (List.forall_mem_map.mpr fun entry _ => entry.wellFormed_view depth)

theorem Progress.wellFormed_view (progress : Progress) (depth : Nat) : progress.view.WellFormed (depth + 1) :=
  wellFormed_of_names ["percent", "total", "processed", "entry", "status"] rfl (by decide) (by simp)

@[simp] theorem Counts.wellFormed_view (counts : Counts) (depth : Nat) : counts.view.WellFormed (depth + 1) :=
  wellFormed_of_names ["renamed", "skipped", "failed", "untouched"] rfl (by decide) (by simp)

namespace Report

theorem Line.wellFormed_view (line : Report.Line) (depth : Nat) : line.view.WellFormed (depth + 1) := by
  unfold Line.view Outcome.failureView
  cases line.outcome.failure? with
  | none => exact wellFormed_of_names ["name", "is_dir", "status"] rfl (by decide) (by simp)
  | some failure =>
    exact wellFormed_of_names ["name", "is_dir", "status", "code", "message"] rfl (by decide) (by simp)

/-- **The view of a report is well-formed**, whatever the entries are called and whatever their failures say. Its
names are fixed and its texts are strings, and so it opens no more than three arrays and objects at once. -/
theorem wellFormed_view (directory : Path) (report : Report) (depth : Nat) :
    (report.view directory).WellFormed (depth + 3) := by
  have views : (Document.array (report.lines.map Line.view)).WellFormed (depth + 2) :=
    .array (List.forall_mem_map.mpr fun line _ => line.wellFormed_view depth)
  exact wellFormed_of_names ["directory", "halted", "counts", "entries"] rfl (by decide) (by simp [views])

end Report

theorem Event.wellFormed_messageView (text code : String) (depth : Nat) :
    (messageView text code).WellFormed (depth + 1) :=
  wellFormed_of_names ["message", "code"] rfl (by decide) (by simp)

theorem Event.wellFormed_document {depth : Nat} {event : Event} (h : event.data.WellFormed depth) :
    event.document.WellFormed (depth + 1) :=
  wellFormed_of_names ["type", "data"] rfl (by decide) (by simp [h])

/-! ## The account of a batch -/

/-- The share is exact as long as a hundred times the count is a count. -/
theorem Progress.percent_eq {processed total : Nat} (counted : 100 * processed ≤ greatestCount) :
    percent processed total = 100 * processed / total := by
  rw [Nat.mul_comm] at counted
  rw [percent, Nat.min_eq_left counted, Nat.mul_comm]
  split
  · next none => rw [none, Nat.div_zero]
  · rfl

/-- A message: what kind it is of, and its particulars. -/
def message (kind : String) (data : Document) : Document := .object [("type", .string kind), ("data", data)]

/-- The documents that tell of the lines of a report. -/
structure Account (lines : List Report.Line) (documents : List Document) : Prop where
  /-- There is one for each line, one before them and one after them. -/
  length : documents.length = lines.length + 2
  /-- The first lists the entries. -/
  listing : documents[0]? = some (message "listing" (.array (lines.map fun line =>
    .object [("name", .string line.entry.name), ("is_dir", .bool line.entry.isDirectory)])))
  /-- Then each tells of an entry and how far the batch has come with it. -/
  progress : ∀ i line, lines[i]? = some line →
    documents[i + 1]? = some (message "progress" (.object
      [("percent", .ofNat (100 * (i + 1) / lines.length)), ("total", .ofNat lines.length),
        ("processed", .ofNat (i + 1)), ("entry", .string line.entry.name),
        ("status", .string line.outcome.label)]))
  /-- The last of these has come all the way. -/
  arrived : lines ≠ [] → ∃ data, documents[lines.length]? = some (message "progress" data) ∧
    data.get? "percent" = some (.ofNat 100)
  /-- The last one lists the entries again, with what became of them. -/
  output : ∃ (data : Document) (views : List Document),
    documents[lines.length + 1]? = some (message "output" data) ∧
    data.get? "entries" = some (.array views) ∧ views.length = lines.length ∧
    ∀ (i : Nat) (line : Report.Line), lines[i]? = some line → ∃ view : Document, views[i]? = some view ∧
      view.get? "name" = some (.string line.entry.name) ∧
      view.get? "is_dir" = some (.bool line.entry.isDirectory) ∧
      view.get? "status" = some (.string line.outcome.label)

namespace Telling

/-- What is told of the lines of a report as they come about, of `total` lines, `before` having come about. -/
def progressEvents (total before : Nat) (lines : List Report.Line) : List Event :=
  lines.mapIdx fun i line => .progress ⟨before + i + 1, total, line.entry.name, line.outcome.label⟩

/-- All that is told of a batch, in order. -/
def events (directory : Path) (report : Report) : List Event :=
  ⟨.listing, Entry.listingView (report.lines.map (·.entry))⟩ ::
    progressEvents report.lines.length 0 report.lines ++ [⟨.output, report.view directory⟩]

theorem progressEvents_cons (total before : Nat) (line : Report.Line) (rest : List Report.Line) :
    progressEvents total before (line :: rest) =
      .progress ⟨before + 1, total, line.entry.name, line.outcome.label⟩ ::
        progressEvents total (before + 1) rest := by
  have later : ∀ i, before + (i + 1) + 1 = before + 1 + i + 1 := by omega
  simp only [progressEvents, List.mapIdx_cons, Nat.add_zero, later]

section

variable {log : Report.Line → List Emission} (silent : ∀ line, ∀ emission ∈ log line, emission.channel ≠ .out)

include silent

/-- What is printed after each line are the events of the progress, if the log is elsewhere. -/
theorem printed_steps (total before : Nat) (lines : List Report.Line) :
    Emission.printed .out (steps .json log total before lines) = Event.lines (progressEvents total before lines) := by
  induction lines generalizing before with
  | nil => rfl
  | cons line rest ih =>
    have nothing := Emission.printed_elsewhere (silent line)
    rw [steps, Emission.printed_append, Emission.printed_append, nothing, ih, List.nil_append, progressEvents_cons,
      progress, Emission.printed_event]
    simp only [Event.lines, List.flatMap_cons, List.flatMap_nil, List.append_nil]

/-- All that is printed of a batch on the normal output, warnings aside, are its events. -/
theorem printed_batch {warnings : List Emission} (aside : ∀ emission ∈ warnings, emission.channel ≠ .out)
    (colour : Bool) (directory : Path) (done : Report) :
    Emission.printed .out
        (listing .json (done.lines.map (·.entry)) :: warnings ++ batch .json colour log directory done) =
      Event.lines (events directory done) := by
  have nothing := Emission.printed_elsewhere aside
  rw [← List.singleton_append, batch, Emission.printed_append, Emission.printed_append, Emission.printed_append,
    nothing, printed_steps silent, listing, report, Emission.printed_event, Emission.printed_event]
  simp only [Event.lines, events, List.flatMap_cons, List.flatMap_append, List.flatMap_nil, List.append_nil,
    List.cons_append, List.append_assoc]

end

theorem wellFormed_events (directory : Path) (report : Report) :
    ∀ event ∈ events directory report, event.document.WellFormed Document.depthLimit := by
  intro event there
  apply Event.wellFormed_document
  rw [events, List.cons_append, List.mem_cons, List.mem_append, List.mem_singleton] at there
  rcases there with rfl | there | rfl
  · exact Entry.wellFormed_listingView _ _
  · obtain ⟨i, _, rfl⟩ := List.mem_mapIdx.mp there
    exact Progress.wellFormed_view _ _
  · exact Report.wellFormed_view _ _ _

section

variable {report : Report} {i : Nat} {line : Report.Line} (directory : Path)

theorem length_progressEvents : (progressEvents report.lines.length 0 report.lines).length = report.lines.length :=
  List.length_mapIdx

/-- Behind the listing comes the progress with each line. -/
theorem getElem?_events (there : report.lines[i]? = some line) :
    (events directory report)[i + 1]? =
      some (.progress ⟨i + 1, report.lines.length, line.entry.name, line.outcome.label⟩) := by
  have inside := (List.getElem?_eq_some_iff.mp there).1
  rw [← length_progressEvents] at inside
  rw [events, List.cons_append, List.getElem?_cons_succ, List.getElem?_append_left inside, progressEvents,
    List.getElem?_mapIdx, there, Nat.zero_add]
  rfl

/-- Behind the progress with the last line comes the report. -/
theorem getElem?_events_last :
    (events directory report)[report.lines.length + 1]? = some ⟨.output, report.view directory⟩ := by
  have behind : (progressEvents report.lines.length 0 report.lines).length ≤ report.lines.length :=
    Nat.le_of_eq length_progressEvents
  rw [events, List.cons_append, List.getElem?_cons_succ, List.getElem?_append_right behind, length_progressEvents,
    Nat.sub_self]
  rfl

/-- **The events of a batch are an account of it.** First there is the listing of all entries, then a progress with
each line, which counts from one and has its entry and its status, and in the end the report. Each of them is found by
its place among the events, and what it says by the line that it was made from. -/
theorem account_events (counted : 100 * report.lines.length ≤ Progress.greatestCount) :
    Account report.lines ((events directory report).map Event.document) := by
  have progress : ∀ i line, report.lines[i]? = some line →
      ((events directory report).map Event.document)[i + 1]? =
        some (message "progress" (.object
          [("percent", .ofNat (100 * (i + 1) / report.lines.length)), ("total", .ofNat report.lines.length),
            ("processed", .ofNat (i + 1)), ("entry", .string line.entry.name),
            ("status", .string line.outcome.label)])) := by
    intro i line there
    have inside := (List.getElem?_eq_some_iff.mp there).1
    have share : Progress.percent (i + 1) report.lines.length = 100 * (i + 1) / report.lines.length :=
      Progress.percent_eq (by omega)
    rw [List.getElem?_map, getElem?_events directory there, ← share]
    rfl
  refine ⟨by simp [events, length_progressEvents], ?_, progress, fun some => ?_, ?_⟩
  · simp only [events, List.cons_append, List.map_cons, List.getElem?_cons_zero, Entry.listingView, List.map_map]
    rfl
  · have positive : 0 < report.lines.length := List.length_pos_iff.mpr some
    have last := progress _ _ (List.getElem?_eq_getElem (Nat.sub_lt positive Nat.one_pos))
    rw [Nat.sub_add_cancel positive, Nat.mul_div_cancel _ positive] at last
    exact ⟨_, last, rfl⟩
  · refine ⟨report.view directory, report.lines.map Report.Line.view, ?_, ?_, List.length_map _,
      fun i line there => ?_⟩
    · rw [List.getElem?_map, getElem?_events_last]
      rfl
    · simp [Report.view, Document.get?, Document.members?, Members.get?]
    · refine ⟨line.view, by rw [List.getElem?_map, there]; rfl, ?_⟩
      simp [Report.Line.view, Document.get?, Document.members?, Members.get?]

end

/-- **A batch is told as it was.** What is printed of it on the normal output is read as an account of its lines, and
as nothing else. Whatever the log and the warnings say, they do not come between the lines, because they go elsewhere.
-/
theorem tells_batch {log : Report.Line → List Emission} {warnings : List Emission}
    (silent : ∀ line, ∀ emission ∈ log line, emission.channel ≠ .out)
    (aside : ∀ emission ∈ warnings, emission.channel ≠ .out) (colour : Bool) (directory : Path) {report : Report}
    (counted : 100 * report.lines.length ≤ Progress.greatestCount) :
    ∃ documents, Account report.lines documents ∧
      Tells (Emission.printed .out
        (listing .json (report.lines.map (·.entry)) :: warnings ++ batch .json colour log directory report))
        documents := by
  refine ⟨_, account_events directory counted, ?_⟩
  rw [printed_batch silent aside]
  exact Event.tells_lines (wellFormed_events directory report)

end Telling
end Relabel
