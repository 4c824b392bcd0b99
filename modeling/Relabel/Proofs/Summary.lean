import Relabel.Proofs.Accounting
import Relabel.Proofs.Output.Stream

/-!
# What a person is told of a batch

The summary is made from the report alone, by asking whether the batch was halted, for the first of its failures, and
for its counts. **What it says is true of the batch** (`Batch.summarises_run`), because of what every report of a batch
is like: a batch that was halted has one failure, and behind it stand the entries that nobody tried (`Report.StopsAt`).
So the first failure is the one that halted the batch, and the entries left untouched are those behind it.

The renamed entries are counted by their outcomes. They are as many as the files that the batch has rewritten, however
many entries lead to one file.
-/

namespace Relabel

/-! ## Warnings -/

theorem Utf8.encode_injective : Function.Injective Utf8.encode := by
  intro text text' same
  have read := decode?_encode text
  rw [same, decode?_encode] at read
  exact (Option.some.inj read).symm

/-- In either colour of a warning, the escape sequences take the same room. -/
theorem Span.toList_shown {style : Style} (warns : style = .red ∨ style = .yellow) (text : String) :
    ∃ front, front.length = 5 ∧
      (Span.shown true ⟨style, text⟩).toList = front ++ (text.toList ++ (escapeSequence 0).toList) := by
  refine ⟨(String.join (style.codes.map escapeSequence)).toList, ?_, ?_⟩
  · rcases warns with rfl | rfl <;> decide +kernel
  · have shown : Span.shown true ⟨style, text⟩ =
        String.join (style.codes.map escapeSequence) ++ text ++ escapeSequence 0 := by
      rcases warns with rfl | rfl <;> rfl
    rw [shown, String.toList_append, String.toList_append, List.append_assoc]

/-- **Warnings with different texts look different**, with colours and without: the escape sequences around the text
take the same room in each of them, and so the text can be found again. -/
theorem Emission.styledLine_inj {channel : Channel} {colour : Bool} {style style' : Style} {text text' : String}
    (warns : style = .red ∨ style = .yellow) (warns' : style' = .red ∨ style' = .yellow)
    (same : styledLine channel colour [⟨style, text⟩] = styledLine channel colour [⟨style', text'⟩]) :
    text = text' := by
  have single (span : Span) : Styled.shown colour [span] = span.shown colour := by
    rw [Styled.shown, List.map_singleton, String.join_cons, String.join_nil, String.append_empty]
  have encoded := List.append_cancel_right (congrArg Emission.bytes same)
  have shown := Utf8.encode_injective encoded
  rw [single, single] at shown
  cases colour with
  | false => exact shown
  | true =>
    obtain ⟨front, five, written⟩ := Span.toList_shown warns text
    obtain ⟨front', five', written'⟩ := Span.toList_shown warns' text'
    rw [shown, written'] at written
    have behind := (List.append_inj written (five'.trans five.symm)).2
    exact String.toList_injective (List.append_cancel_right behind).symm

namespace Report

/-- The second character behind the digits in front of a text. No two of the three warnings have it in common. -/
def sign (text : String) : Option Char := (text.toList.dropWhile Char.isDigit)[1]?

theorem sign_append (n : Nat) (rest : String) : sign (toString n ++ rest) = sign rest := by
  have digits : ∀ c ∈ (toString n).toList, c.isDigit = true := by
    intro c there
    rw [Nat.toString_eq_repr, Nat.toList_repr] at there
    exact Nat.isDigit_of_mem_toDigits (by decide) (by decide) there
  rw [sign, String.toList_append, List.dropWhile_append_of_pos digits, sign]

theorem sign_stopped (name text : String) : sign ("Stopped at '" ++ name ++ "': " ++ text) = some 't' := by
  rw [sign, String.append_assoc, String.append_assoc, String.toList_append]
  rfl

theorem sign_untouched (untouched : Nat) :
    sign (toString untouched ++ " entries left untouched. Re-run with --keep-going to attempt them all.") =
      some 'e' := by
  rw [sign_append]
  decide +kernel

theorem sign_failed (failed total : Nat) :
    sign (toString failed ++ " of " ++ toString total ++ " entries failed") = some 'o' := by
  rw [String.append_assoc, String.append_assoc, sign_append, sign, String.toList_append]
  rfl

section

variable {colour : Bool} {channel : Channel} {entry : Entry} {failure : Failure} {untouched failed total : Nat}

/-- A warning about the failure that a batch stopped at is told from one that counts failures. -/
theorem stoppedLine_ne_failedLine :
    Emission.styledLine channel colour (stoppedLine entry failure) ≠
      Emission.styledLine channel colour (failedLine failed total) := by
  intro same
  have signs := congrArg sign (Emission.styledLine_inj (.inl rfl) (.inl rfl) same)
  rw [sign_stopped, sign_failed] at signs
  exact absurd signs (by decide)

theorem untouchedLine_ne_failedLine :
    Emission.styledLine channel colour (untouchedLine untouched) ≠
      Emission.styledLine channel colour (failedLine failed total) := by
  intro same
  have signs := congrArg sign (Emission.styledLine_inj (.inr rfl) (.inl rfl) same)
  rw [sign_untouched, sign_failed] at signs
  exact absurd signs (by decide)

end

/-! ## Summaries -/

variable {report : Report}

/-- The table and the last line are on the normal output, and the warnings between them on the error output. -/
theorem filter_summary (nonempty : report.lines ≠ []) (colour : Bool) :
    (report.summary colour).filter (·.channel = .err) = report.warnings.map (Emission.styledLine .err colour) ∧
      ((report.summary colour).filter (·.channel = .out)).getLast? =
        some (.styledLine .out colour (renamedLine report.counts.renamed report.lines.length)) := by
  have table : ∀ emission ∈ report.table.map (Emission.line .out), emission.channel = .out := by
    intro emission there
    obtain ⟨_, -, rfl⟩ := List.mem_map.mp there
    rfl
  have warnings : ∀ emission ∈ report.warnings.map (Emission.styledLine .err colour), emission.channel = .err := by
    intro emission there
    obtain ⟨_, -, rfl⟩ := List.mem_map.mp there
    rfl
  rw [summary, if_neg (mt List.isEmpty_iff.mp nonempty)]
  constructor
  · rw [List.filter_append, List.filter_append, Emission.filter_here warnings,
      Emission.filter_elsewhere fun emission there => by rw [table emission there]; decide]
    exact List.append_nil _
  · rw [List.filter_append, List.filter_append, Emission.filter_here table,
      Emission.filter_elsewhere fun emission there => by rw [warnings emission there]; decide]
    exact List.getLast?_concat

end Report

/-! ## Reports of batches that were halted -/

namespace Report

/-- A report of entries up to a failure, and of entries behind it that nobody tried. -/
structure StopsAt (report : Report) (front : List Report.Line) (entry : Entry) (failure : Failure)
    (back : List Entry) : Prop where
  lines : report.lines = front ++ ⟨entry, .failed failure⟩ :: back.map (⟨·, .untouched⟩)
  succeeded : ∀ line ∈ front, line.outcome = .renamed ∨ line.outcome = .skipped

namespace StopsAt

variable {report : Report} {front : List Report.Line} {entry : Entry} {failure : Failure} {back : List Entry}

/-- A report that stops at a failure has this failure and no other. -/
theorem failures_eq (h : report.StopsAt front entry failure back) : report.failures = [(entry, failure)] := by
  have before : front.filterMap (fun line => line.outcome.failure?.map (line.entry, ·)) = [] := by
    rw [List.filterMap_eq_nil_iff]
    intro line there
    rcases h.succeeded line there with outcome | outcome <;> rw [outcome] <;> rfl
  have behind : (back.map (⟨·, .untouched⟩ : Entry → Report.Line)).filterMap
      (fun line => line.outcome.failure?.map (line.entry, ·)) = [] := by
    rw [List.filterMap_map]
    exact List.filterMap_eq_nil_iff.mpr fun _ _ => rfl
  have failed : Option.map (entry, ·) (Outcome.failed failure).failure? = some (entry, failure) := rfl
  rw [failures, h.lines, List.filterMap_append, before, List.filterMap_cons, failed, behind, List.nil_append]

theorem untouched_counts (h : report.StopsAt front entry failure back) : report.counts.untouched = back.length := by
  have before : front.countP (·.outcome.label = "untouched") = 0 := by
    rw [List.countP_eq_zero]
    intro line there
    rcases h.succeeded line there with outcome | outcome <;> rw [outcome] <;> decide
  have behind : (back.map (⟨·, .untouched⟩ : Entry → Report.Line)).countP (·.outcome.label = "untouched") =
      back.length := by
    rw [List.countP_map]
    exact List.countP_eq_length.mpr fun _ _ => rfl
  rw [counts_eq]
  show report.labelled "untouched" = _
  rw [labelled, h.lines, List.countP_append, before, List.countP_cons, behind, Nat.zero_add]
  rfl

end StopsAt
end Report

namespace Batch

variable {options : Options} {tree : Tree} {entry : Entry} {entries : List Entry}

theorem accounted_run (options : Options) (tree : Tree) (entries : List Entry) :
    Accounted options entries (run options tree entries).1 := by
  have passive : Observer.IsPassive fun (_ : Entry) (_ : Outcome) (now : Unit × Tree) => now := fun _ _ _ => rfl
  rw [watch_of_isPassive options () tree entries passive]
  exact accounted_watch ..

/-- An entry that is tried in time and does not fail is renamed or skipped. -/
theorem step_of_succeeds (h : (step options false tree entry).1.isFailure = false) :
    (step options false tree entry).1 = .renamed ∨ (step options false tree entry).1 = .skipped := by
  have touched : (step options false tree entry).1 ≠ .untouched := by
    unfold step withoutTrying
    rw [if_neg Bool.false_ne_true]
    split
    · next outcome ho =>
      split at ho
      · cases ho
        exact nofun
      · cases ho
    · exact attempt_ne_untouched
  cases outcome : (step options false tree entry).1 with
  | renamed => exact .inl rfl
  | skipped => exact .inr rfl
  | failed failure =>
    rw [outcome] at h
    cases h
  | untouched => exact absurd outcome touched

/-- **A batch that was halted stopped at a failure.** The induction is on the entries. If the first one fails, the
batch halts there, and the others are untouched; if it does not, it has been renamed or skipped, and the batch stops
among the others. -/
theorem exists_stopsAt (policy : options.policy = .firstError)
    (h : (runFrom options false tree entries).1.halted = true) :
    ∃ front entry failure back, (runFrom options false tree entries).1.StopsAt front entry failure back ∧
      entries = front.map (·.entry) ++ entry :: back := by
  induction entries generalizing tree with
  | nil => cases h
  | cons first rest ih =>
    rw [runFrom_cons, Bool.false_or] at h ⊢
    cases fails : (step options false tree first).1.isFailure with
    | true =>
      have halts := haltsAfter_iff.mpr ⟨policy, fails⟩
      obtain ⟨failure, failed⟩ := Option.isSome_iff_exists.mp fails
      rw [Outcome.failure?_eq_some_iff] at failed
      refine ⟨[], first, failure, rest, ⟨?_, nofun⟩, rfl⟩
      rw [halts, runFrom_halted, failed]
      rfl
    | false =>
      have goesOn : haltsAfter options (step options false tree first).1 = false := by
        rw [haltsAfter, fails, Bool.and_false]
      rw [goesOn] at h ⊢
      obtain ⟨front, entry, failure, back, stops, split⟩ := ih h
      refine ⟨⟨first, (step options false tree first).1⟩ :: front, entry, failure, back, ⟨?_, ?_⟩, ?_⟩
      · rw [List.cons_append, ← stops.lines]
      · exact List.forall_mem_cons.mpr ⟨step_of_succeeds fails, stops.succeeded⟩
      · rw [List.map_cons, List.cons_append, ← split]

/-! ## The warnings of a batch -/

section

variable (options tree entries)

/-- A batch has halted exactly if it halts at failures and there was one. -/
theorem halted_run :
    (run options tree entries).1.halted = true ↔
      options.policy = .firstError ∧ (run options tree entries).1.hasFailures = true := by
  rw [(accounted_run options tree entries).halted, Report.hasFailures_iff]

theorem length_lines_run : (run options tree entries).1.lines.length = entries.length := by
  rw [← List.length_map (·.entry), (accounted_run options tree entries).entries]

variable {options tree entries}

/-- Nothing is wrong with a batch in which nothing failed. -/
theorem warnings_of_succeeds (clean : (run options tree entries).1.hasFailures = false) :
    (run options tree entries).1.warnings = [] := by
  have goesOn : (run options tree entries).1.halted = false := by
    rw [Bool.eq_false_iff, ne_eq, halted_run, clean]
    exact fun h => Bool.false_ne_true h.2
  have clear : ¬ 0 < (run options tree entries).1.counts.failed := by
    rw [← Report.hasFailures_iff, clean]
    exact Bool.false_ne_true
  rw [Report.warnings, goesOn, if_neg Bool.false_ne_true, if_neg clear]

/-- A batch that halts at failures tells the first one, and how many entries are behind it. -/
theorem warnings_of_halted (policy : options.policy = .firstError)
    (fails : (run options tree entries).1.hasFailures = true) :
    ∃ front entry failure back, (run options tree entries).1.StopsAt front entry failure back ∧
      entries = front.map (·.entry) ++ entry :: back ∧
      (run options tree entries).1.warnings =
        [Report.stoppedLine entry failure, Report.untouchedLine back.length] := by
  have halted := (halted_run options tree entries).mpr ⟨policy, fails⟩
  obtain ⟨front, entry, failure, back, stops, split⟩ := exists_stopsAt policy halted
  refine ⟨front, entry, failure, back, stops, split, ?_⟩
  have failures : (run options tree entries).1.failures = [(entry, failure)] := stops.failures_eq
  have untouched : (run options tree entries).1.counts.untouched = back.length := stops.untouched_counts
  rw [Report.warnings, if_pos halted, failures, untouched]
  rfl

/-- A batch that keeps going tells how many entries failed. -/
theorem warnings_of_keeping (policy : options.policy = .keepGoing)
    (fails : (run options tree entries).1.hasFailures = true) :
    (run options tree entries).1.warnings =
      [Report.failedLine ((run options tree entries).1.lines.countP (·.outcome.isFailure)) entries.length] := by
  have goesOn : (run options tree entries).1.halted = false := by
    rw [Bool.eq_false_iff, ne_eq, halted_run, policy]
    exact fun h => nomatch h.1
  rw [Report.warnings, goesOn, if_neg Bool.false_ne_true, if_pos (Report.hasFailures_iff _ |>.mp fails),
    length_lines_run, Report.countP_isFailure]

/-- A warning tells of the failure that a batch stopped at exactly if there was one. -/
theorem stoppedLine_mem_iff (colour : Bool) :
    (∃ entry failure, Emission.styledLine .err colour (Report.stoppedLine entry failure) ∈
        (run options tree entries).1.warnings.map (Emission.styledLine .err colour)) ↔
      options.policy = .firstError ∧ (run options tree entries).1.hasFailures = true := by
  constructor
  · rintro ⟨entry, failure, there⟩
    cases fails : (run options tree entries).1.hasFailures with
    | false =>
      rw [warnings_of_succeeds fails] at there
      cases there
    | true =>
      cases policy : options.policy with
      | firstError => exact ⟨rfl, rfl⟩
      | keepGoing =>
        rw [warnings_of_keeping policy fails, List.map_singleton, List.mem_singleton] at there
        exact absurd there Report.stoppedLine_ne_failedLine
  · rintro ⟨policy, fails⟩
    obtain ⟨_, entry, failure, _, -, -, told⟩ := warnings_of_halted policy fails
    rw [told]
    exact ⟨entry, failure, List.mem_cons_self⟩

/-- A warning counts the failures exactly if the batch went on past some. -/
theorem failedLine_mem_iff (colour : Bool) :
    (∃ failed total, Emission.styledLine .err colour (Report.failedLine failed total) ∈
        (run options tree entries).1.warnings.map (Emission.styledLine .err colour)) ↔
      options.policy = .keepGoing ∧ (run options tree entries).1.hasFailures = true := by
  constructor
  · rintro ⟨failed, total, there⟩
    cases fails : (run options tree entries).1.hasFailures with
    | false =>
      rw [warnings_of_succeeds fails] at there
      cases there
    | true =>
      cases policy : options.policy with
      | keepGoing => exact ⟨rfl, rfl⟩
      | firstError =>
        obtain ⟨_, entry, failure, back, -, -, told⟩ := warnings_of_halted policy fails
        rw [told, List.map_cons, List.map_singleton, List.mem_pair] at there
        rcases there with same | same
        · exact absurd same.symm Report.stoppedLine_ne_failedLine
        · exact absurd same.symm Report.untouchedLine_ne_failedLine
  · rintro ⟨policy, fails⟩
    rw [warnings_of_keeping policy fails]
    exact ⟨_, _, List.mem_cons_self⟩

end

/-! ## What is told -/

/-- What a person is told of a batch when it is over. -/
def told (options : Options) (tree : Tree) (entries : List Entry) (colour : Bool) : List Emission :=
  (run options tree entries).1.summary colour

/-- What a person is told of a batch is true of it. -/
structure Summarises (options : Options) (tree : Tree) (entries : List Entry) (colour : Bool) : Prop where
  /-- It is told that the batch stopped exactly if it was to stop at a failure and met one. -/
  stopped :
    (∃ entry failure,
        .styledLine .err colour (Report.stoppedLine entry failure) ∈ told options tree entries colour) ↔
      options.policy = .firstError ∧ (run options tree entries).1.hasFailures = true
  /-- Then the only entry that failed is named with its failure, and in the line behind that the entries behind it are
  counted, none of which was touched. -/
  named : options.policy = .firstError → (run options tree entries).1.hasFailures = true →
    ∃ front entry failure back, (run options tree entries).1.StopsAt front entry failure back ∧
      entries = front.map (·.entry) ++ entry :: back ∧
      (told options tree entries colour).filter (·.channel = .err) =
        [.styledLine .err colour (Report.stoppedLine entry failure),
          .styledLine .err colour (Report.untouchedLine back.length)]
  /-- It is told how many entries failed exactly if the batch was to keep going and some failed. -/
  failed :
    (∃ failed total, .styledLine .err colour (Report.failedLine failed total) ∈ told options tree entries colour) ↔
      options.policy = .keepGoing ∧ (run options tree entries).1.hasFailures = true
  /-- Then it is their number that is told, and the number of all entries, and nothing else. -/
  numbered : options.policy = .keepGoing → (run options tree entries).1.hasFailures = true →
    (told options tree entries colour).filter (·.channel = .err) =
      [.styledLine .err colour (Report.failedLine
        ((run options tree entries).1.lines.countP (·.outcome.isFailure)) entries.length)]
  /-- Nothing is on the error output if nothing failed. -/
  silent : (run options tree entries).1.hasFailures = false →
    Emission.printed .err (told options tree entries colour) = []
  /-- The last line of the normal output counts the files that were rewritten, each of them once. -/
  last : ((told options tree entries colour).filter (·.channel = .out)).getLast? =
    some (.styledLine .out colour (Report.renamedLine (written options tree entries).length entries.length))
  /-- Those are the files that hold other bytes than before the batch. -/
  rewritten : (written options tree entries).Nodup ∧
    ∀ id, id ∈ written options tree entries ↔ (run options tree entries).2.contents id ≠ tree.contents id

/-- **What a person is told of a batch is true of it.** The warnings are those of one of three cases: nothing failed,
the batch halted at a failure, or it went on past some. In each case their texts are known, and none of them looks
like a warning of another case. -/
theorem summarises_run (options : Options) (tree : Tree) (entries : List Entry) (colour : Bool)
    (nonempty : entries ≠ []) : Summarises options tree entries colour := by
  have lines : (run options tree entries).1.lines ≠ [] := by
    rw [← List.length_pos_iff, length_lines_run, List.length_pos_iff]
    exact nonempty
  obtain ⟨warnings, last⟩ := Report.filter_summary lines colour
  obtain ⟨rewrote, counted⟩ := rewrote_runFrom options false tree entries
  have renamed : (run options tree entries).1.counts.renamed = (written options tree entries).length :=
    (Report.renamed_counts _).trans counted
  -- A line on the error output is one of the warnings.
  have warned : ∀ styled, Emission.styledLine .err colour styled ∈ told options tree entries colour ↔
      Emission.styledLine .err colour styled ∈
        (run options tree entries).1.warnings.map (Emission.styledLine .err colour) := by
    intro styled
    rw [← warnings, List.mem_filter, decide_eq_true_eq]
    exact (and_iff_left rfl).symm
  constructor
  case stopped =>
    simp only [warned]
    exact stoppedLine_mem_iff colour
  case named =>
    intro policy fails
    obtain ⟨front, entry, failure, back, stops, split, told⟩ := warnings_of_halted policy fails
    refine ⟨front, entry, failure, back, stops, split, ?_⟩
    rw [Batch.told, warnings, told]
    rfl
  case failed =>
    simp only [warned]
    exact failedLine_mem_iff colour
  case numbered =>
    intro policy fails
    rw [told, warnings, warnings_of_keeping policy fails]
    rfl
  case silent =>
    intro clean
    rw [Emission.printed, told, warnings, warnings_of_succeeds clean]
    rfl
  case last => rw [told, last, renamed, length_lines_run]
  case rewritten => exact ⟨rewrote.once, fun id => (rewrote.contents_ne_iff id).symm⟩

/-- The second of four entries fails. A batch that halts there names it and counts the two behind it; one that keeps
going finds that two have failed, the other of them because its file had been rewritten already. -/
theorem summarises_run_linked :
    linkedEntries ≠ [] ∧
      (∃ entry failure, Emission.styledLine .err true (Report.stoppedLine entry failure) ∈
        told (halting false) linkedTree linkedEntries true) ∧
      (run (halting false) linkedTree linkedEntries).1.warnings.map Styled.text =
        ["Stopped at 'b': 'b' is not valid JSON: EOF while parsing a value at line 1 column 3",
          "2 entries left untouched. Re-run with --keep-going to attempt them all."] ∧
      ((told (halting false) linkedTree linkedEntries true).filter (·.channel = .out)).getLast? =
        some (.styledLine .out true (Report.renamedLine 1 4)) ∧
      (told (keeping false) linkedTree linkedEntries true).filter (·.channel = .err) =
        [.styledLine .err true (Report.failedLine 2 4)] := by
  have nonempty : linkedEntries ≠ [] := by decide +kernel
  have halted := summarises_run (halting false) linkedTree linkedEntries true nonempty
  have kept := summarises_run (keeping false) linkedTree linkedEntries true nonempty
  have history : written (halting false) linkedTree linkedEntries = [1] := by decide +kernel
  have four : linkedEntries.length = 4 := by decide +kernel
  have failed : (run (keeping false) linkedTree linkedEntries).1.lines.countP (·.outcome.isFailure) = 2 := by
    decide +kernel
  have last := halted.last
  have numbered := kept.numbered rfl (by decide +kernel)
  rw [history, four] at last
  rw [failed, four] at numbered
  exact ⟨nonempty, halted.stopped.mpr ⟨rfl, by decide +kernel⟩, by decide +kernel, last, numbered⟩

end Batch
end Relabel
