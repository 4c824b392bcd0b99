import Mathlib.Data.List.Induction
import Relabel.Proofs.Policy
import Relabel.Report.View

/-!
# Accounting for a batch

Whoever observes a batch is told of each entry once and in order, and the report says of each the same
(`watch_recording`). **Nothing is lost between the loop and its readers**: the entries of a report are the entries of
the batch, its counts are of all of them, the three ways to ask for failures agree, and so does the document of the
report (`watch_accounts`).

`Accounted` is the invariant of the loop. It joins the flag to the failures: a batch has halted exactly if its policy is
to do so and there was a failure, and then there was one only, since nothing is tried behind it. One entry keeps it
(`Accounted.concat`), whatever the observer does between two entries, and so does the loop. The readers of a report
are compared by way of the labels of its lines (`counts_eq`), which are also what a document shows of an outcome.
-/

namespace Relabel

/-! ## Readers of a report -/

/-- An outcome is a failure exactly if its label is that of failures, so that the statuses that are shown say no less
than the outcomes. -/
theorem Outcome.isFailure_iff {outcome : Outcome} : outcome.isFailure = true ↔ outcome.label = "failed" := by
  cases outcome <;> simp [isFailure, failure?, label]

theorem Outcome.failure?_eq_some_iff {outcome : Outcome} {failure : Failure} :
    outcome.failure? = some failure ↔ outcome = .failed failure := by
  cases outcome <;> simp [failure?]

namespace Counts

variable (counts : Counts) (outcome : Outcome)

/-- How many entries have been counted. -/
def total : Nat := counts.renamed + counts.skipped + counts.failed + counts.untouched

theorem total_add : (counts.add outcome).total = counts.total + 1 := by
  cases outcome <;> simp only [add, total] <;> omega

theorem failed_add : (counts.add outcome).failed = counts.failed + if outcome.isFailure then 1 else 0 := by
  cases outcome <;> rfl

end Counts

namespace Report

variable (report : Report) {lines : List Report.Line} {line : Report.Line} {halted : Bool} (halted' : Bool)

/-- The counts grow with the last line. Whether the batch had halted has no part in them. -/
theorem counts_concat :
    counts ⟨lines ++ [line], halted⟩ = (counts ⟨lines, halted'⟩).add line.outcome := List.foldl_concat ..

/-- How many entries have an outcome with a label. -/
def labelled (label : String) : Nat := report.lines.countP (·.outcome.label = label)

/-- **The counts are the tally of the labels.** Each of the four is the number of lines that carry its label, so that
whoever counts what is shown comes to the counts that are told. -/
theorem counts_eq :
    report.counts = ⟨report.labelled "renamed", report.labelled "skipped", report.labelled "failed",
      report.labelled "untouched"⟩ := by
  obtain ⟨lines, halted⟩ := report
  induction lines using List.reverseRecOn with
  | nil => rfl
  | append_singleton lines line ih =>
    rw [counts_concat halted, ih]
    simp only [labelled, List.countP_append, List.countP_singleton]
    cases line.outcome <;> simp [Counts.add, Outcome.label]

/-- The four counts add up to the number of lines, because every line is counted once. -/
theorem total_counts : report.counts.total = report.lines.length := by
  obtain ⟨lines, halted⟩ := report
  induction lines using List.reverseRecOn with
  | nil => rfl
  | append_singleton lines line ih =>
    rw [counts_concat halted, Counts.total_add, ih, List.length_append]
    rfl

theorem countP_isFailure : report.lines.countP (·.outcome.isFailure) = report.counts.failed := by
  rw [counts_eq, labelled]
  exact List.countP_congr fun line _ => by rw [Outcome.isFailure_iff, decide_eq_true_eq]

theorem length_failures : report.failures.length = report.counts.failed := by
  rw [← countP_isFailure, failures, List.length_filterMap_eq_countP]
  simp only [Option.isSome_map]
  rfl

/-- A report says that it has failures exactly if it counts one. -/
theorem hasFailures_iff : report.hasFailures = true ↔ 0 < report.counts.failed := by
  rw [← countP_isFailure, List.countP_pos_iff, hasFailures, List.any_eq_true]

theorem failures_ne_nil_iff : report.failures ≠ [] ↔ 0 < report.counts.failed := by
  rw [← length_failures, List.length_pos_iff]

end Report

/-! ## The loop -/

namespace Batch

variable {σ : Type} {options : Options} {observe : Observer σ} {done : List Entry} {report : Report}

/-- What is known of a report in which some entries have been dealt with. -/
structure Accounted (options : Options) (done : List Entry) (report : Report) : Prop where
  entries : report.lines.map (·.entry) = done
  halted : report.halted = true ↔ options.policy = .firstError ∧ 0 < report.counts.failed
  once : report.halted = true → report.counts.failed = 1

/-- A batch halts after an outcome exactly if the outcome is a failure and the policy is to halt at the first one. -/
theorem haltsAfter_iff {outcome : Outcome} :
    haltsAfter options outcome = true ↔ options.policy = .firstError ∧ outcome.isFailure = true := by
  rw [haltsAfter, Bool.and_eq_true, decide_eq_true_eq]

/-- **One entry more keeps the accounts**, whatever the tree is. The new line is of that entry. A batch that had
halted before does not fail again, and one that halts now does so because of this failure, of which there was none
before; that is why the count of failures is one in a batch that has halted. -/
theorem Accounted.concat (h : Accounted options done report) (tree : Tree) (entry : Entry) :
    Accounted options (done ++ [entry])
      ⟨report.lines ++ [⟨entry, (step options report.halted tree entry).1⟩],
        report.halted || haltsAfter options (step options report.halted tree entry).1⟩ := by
  obtain ⟨lines, halted⟩ := report
  obtain ⟨entries, haltedIff, once⟩ := h
  dsimp only at entries haltedIff once ⊢
  -- A batch that has halted tries nothing, so nothing fails.
  have quiet : halted = true → (step options halted tree entry).1.isFailure = false := by
    rintro rfl
    rfl
  generalize (step options halted tree entry).1 = outcome at quiet ⊢
  have failed : (Report.counts ⟨lines ++ [⟨entry, outcome⟩], halted || haltsAfter options outcome⟩).failed =
      (Report.counts ⟨lines, halted⟩).failed + if outcome.isFailure then 1 else 0 := by
    rw [Report.counts_concat halted, Counts.failed_add]
  refine ⟨by rw [List.map_append, entries]; rfl, ?_, fun stops => ?_⟩
  · rw [Bool.or_eq_true, haltedIff, haltsAfter_iff, failed, ← and_or_left]
    refine and_congr_right fun _ => ?_
    cases outcome.isFailure <;> simp
  · rw [failed]
    cases halted with
    | true => rw [quiet rfl, once rfl]; rfl
    | false =>
      obtain ⟨policy, fails⟩ := haltsAfter_iff.mp stops
      have none : (Report.counts ⟨lines, false⟩).failed = 0 := by
        by_contra some
        exact absurd (haltedIff.mpr ⟨policy, Nat.pos_of_ne_zero some⟩) Bool.false_ne_true
      rw [none, fails]
      rfl

/-- **The loop keeps the accounts.** Its rounds are steps of the kind that `Accounted.concat` is about. What an
observer does to the tree in between is of no account, because a step keeps the accounts on any tree. -/
theorem accounted_foldl {now : Underway σ} (h : Accounted options done now.report) (entries : List Entry) :
    Accounted options (done ++ entries) (entries.foldl (advance options observe) now).report := by
  induction entries generalizing now done with
  | nil => exact (List.append_nil done).symm ▸ h
  | cons entry rest ih =>
    have next : Accounted options (done ++ [entry]) (advance options observe now entry).report :=
      h.concat now.tree entry
    rw [List.foldl_cons, List.append_cons]
    exact ih next

variable (options observe) (seen : σ) (tree : Tree) (entries : List Entry)

theorem accounted_watch : Accounted options entries (watch options observe seen tree entries).report := by
  have start : Accounted options [] (watch options observe seen tree []).report :=
    ⟨rfl, ⟨nofun, fun h => absurd h.2 (Nat.lt_irrefl 0)⟩, nofun⟩
  exact accounted_foldl start entries

/-! ## Observers -/

/-- An observer that also keeps a list of all it is told. -/
def recording : Observer (List Report.Line × σ) := fun entry outcome now =>
  let (seen, tree) := observe entry outcome (now.1.2, now.2)
  ((now.1.1 ++ [⟨entry, outcome⟩], seen), tree)

/-- How far a batch has come, with the lines of its report as what has been told of it. -/
def Underway.recorded (now : Underway σ) : Underway (List Report.Line × σ) :=
  ⟨now.report, now.tree, now.report.lines, now.seen⟩

/-- **An observer is told what the report says**, line by line. Recording what one is told adds a list to what one has
seen, and it is the list of the lines; the induction shows that it is so after any number of rounds. -/
theorem watch_recording :
    watch options (recording observe) ([], seen) tree entries =
      (watch options observe seen tree entries).recorded := by
  have step (now : Underway σ) (entry : Entry) :
      advance options (recording observe) now.recorded entry = (advance options observe now entry).recorded := rfl
  show entries.foldl _ (Underway.recorded ⟨⟨[], false⟩, tree, seen⟩) = _
  exact List.foldl_hom Underway.recorded step

/-- An observer that leaves the tree alone. -/
def Observer.IsPassive : Prop := ∀ entry outcome now, (observe entry outcome now).2 = now.2

variable {observe}

/-- From any round on, an observer who leaves the tree alone watches the batch that goes on by itself: the lines that
it adds and the tree that it leaves are those of the recursion over the entries that are left. -/
theorem foldl_of_isPassive (passive : Observer.IsPassive observe) (now : Underway σ) :
    (entries.foldl (advance options observe) now).report =
        ⟨now.report.lines ++ (runFrom options now.report.halted now.tree entries).1.lines,
          (runFrom options now.report.halted now.tree entries).1.halted⟩ ∧
      (entries.foldl (advance options observe) now).tree =
        (runFrom options now.report.halted now.tree entries).2 := by
  induction entries generalizing now with
  | nil => exact ⟨by rw [runFrom, List.append_nil]; rfl, rfl⟩
  | cons entry rest ih =>
    obtain ⟨report, tree⟩ := ih (advance options observe now entry)
    have after : (advance options observe now entry).tree = (step options now.report.halted now.tree entry).2 :=
      passive entry _ _
    rw [List.foldl_cons, report, tree, after, runFrom_cons]
    refine ⟨?_, rfl⟩
    dsimp only [advance]
    rw [List.append_assoc]
    rfl

/-- **Observers that leave the tree alone make no difference.** The loop under observation and the recursion that
knows of no observer come to the same report and the same tree. -/
theorem watch_of_isPassive (passive : Observer.IsPassive observe) :
    run options tree entries =
      ((watch options observe seen tree entries).report, (watch options observe seen tree entries).tree) := by
  obtain ⟨report, after⟩ := foldl_of_isPassive options entries passive ⟨⟨[], false⟩, tree, seen⟩
  rw [watch, report, after]
  rfl

end Batch

/-! ## Documents of reports -/

namespace Report

variable (report : Report) (line : Report.Line)

/-- The status of an entry in the document of a report. -/
def statusOf (view : Document) : Option String :=
  match view.get? "status" with
  | some (.string status) => some status
  | _ => none

/-- A document shows what a line says. -/
structure Line.IsShown (view : Document) : Prop where
  name : view.get? "name" = some (.string line.entry.name)
  kind : view.get? "is_dir" = some (.bool line.entry.isDirectory)
  status : statusOf view = some line.outcome.label
  code : view.get? "code" = line.outcome.failure?.map fun failure => .string failure.code
  message : view.get? "message" = line.outcome.failure?.map fun failure => .string failure.message

theorem Line.isShown_view : line.IsShown line.view := by
  unfold view Outcome.failureView
  constructor <;> cases line.outcome.failure? <;>
    simp [statusOf, Document.get?, Document.members?, Members.get?]

variable {report line} {view : Document} {views : List Document}

/-- Only a failure has a code and a message. -/
theorem Line.IsShown.isSome_iff (h : line.IsShown view) :
    ((view.get? "code").isSome = true ↔ statusOf view = some "failed") ∧
      ((view.get? "message").isSome = true ↔ statusOf view = some "failed") := by
  have failed : line.outcome.failure?.isSome = true ↔ statusOf view = some "failed" := by
    rw [h.status, Option.some_inj, ← Outcome.isFailure_iff]
    rfl
  rw [h.code, h.message, Option.isSome_map, Option.isSome_map]
  exact ⟨failed, failed⟩

/-- The tally of what is shown is that of what is said. -/
theorem countP_statusOf {lines : List Report.Line} (h : List.Forall₂ Line.IsShown lines views) (label : String) :
    views.countP (statusOf · = some label) = lines.countP (·.outcome.label = label) := by
  induction h with
  | nil => rfl
  | cons shown _ ih => simp only [List.countP_cons, ih, shown.status, Option.some_inj]

/-- A document shows what a report says, and `views` are what it has in the place of the lines. -/
structure IsShown (report : Report) (document : Document) (views : List Document) : Prop where
  entries : document.get? "entries" = some (.array views)
  lines : List.Forall₂ Line.IsShown report.lines views
  /-- Only failures have a code and a message. -/
  failures : ∀ view ∈ views, ((view.get? "code").isSome = true ↔ statusOf view = some "failed") ∧
    ((view.get? "message").isSome = true ↔ statusOf view = some "failed")
  /-- The counts are the tally of what is shown. -/
  tally : ∃ counts, document.get? "counts" = some counts ∧
    ∀ label ∈ ["renamed", "skipped", "failed", "untouched"],
      counts.get? label = some (.ofNat (views.countP (statusOf · = some label)))

/-- The view of a report shows what the report says, with the views of its lines in the place of the lines. -/
theorem isShown_view (report : Report) (directory : Path) :
    report.IsShown (report.view directory) (report.lines.map Line.view) := by
  have shown : List.Forall₂ Line.IsShown report.lines (report.lines.map Line.view) :=
    List.forall₂_map_right_iff.mpr (List.forall₂_same.mpr fun line _ => line.isShown_view)
  constructor
  case entries => simp [view, Document.get?, Document.members?, Members.get?]
  case lines => exact shown
  case failures =>
    intro view there
    obtain ⟨line, -, rfl⟩ := List.mem_map.mp there
    exact line.isShown_view.isSome_iff
  case tally =>
    refine ⟨report.counts.view, by simp [view, Document.get?, Document.members?, Members.get?], ?_⟩
    intro label there
    rw [countP_statusOf shown, counts_eq, Counts.view]
    simp only [List.mem_cons, List.not_mem_nil, or_false] at there
    rcases there with rfl | rfl | rfl | rfl <;>
      simp [labelled, Document.get?, Document.members?, Members.get?]

end Report

/-! ## The account -/

namespace Batch

variable {σ : Type} (options : Options) (observe : Observer σ) (seen : σ) (tree : Tree) (entries : List Entry)

/-- A report accounts for the entries of a batch. -/
structure Accounts (options : Options) (entries : List Entry) (report : Report) : Prop where
  lines : report.lines.map (·.entry) = entries
  total : report.counts.renamed + report.counts.skipped + report.counts.failed + report.counts.untouched =
    entries.length
  hasFailures : report.hasFailures = true ↔ 0 < report.counts.failed
  failures : report.failures ≠ [] ↔ 0 < report.counts.failed
  halted : report.halted = true ↔
    options.policy = .firstError ∧ ∃ line ∈ report.lines, ∃ failure, line.outcome = .failed failure
  once : report.halted = true → report.counts.failed = 1 ∧ report.failures.length = 1
  shown : ∀ directory, ∃ views, report.IsShown (report.view directory) views

/-- What is kept up from round to round is all that is asked of the account in the end. -/
theorem accounts_of_accounted {options : Options} {entries : List Entry} {report : Report}
    (h : Accounted options entries report) : Accounts options entries report where
  lines := h.entries
  total := by
    rw [← h.entries, List.length_map]
    exact report.total_counts
  hasFailures := report.hasFailures_iff
  failures := report.failures_ne_nil_iff
  halted := by
    rw [h.halted, ← report.hasFailures_iff, Report.hasFailures, List.any_eq_true]
    simp only [Outcome.isFailure, Option.isSome_iff_exists, Outcome.failure?_eq_some_iff]
  once stops := ⟨h.once stops, report.length_failures.trans (h.once stops)⟩
  shown directory := ⟨_, report.isShown_view directory⟩

/-- **A batch accounts for its entries**, and an observer has been told what the report says of each, whatever the
observer does. One who leaves the tree alone makes no difference to the batch. -/
theorem watch_accounts :
    Accounts options entries (watch options observe seen tree entries).report ∧
      watch options (recording observe) ([], seen) tree entries =
        ⟨(watch options observe seen tree entries).report, (watch options observe seen tree entries).tree,
          (watch options observe seen tree entries).report.lines, (watch options observe seen tree entries).seen⟩ ∧
      (Observer.IsPassive observe → run options tree entries =
        ((watch options observe seen tree entries).report, (watch options observe seen tree entries).tree)) :=
  ⟨accounts_of_accounted (accounted_watch ..), watch_recording .., watch_of_isPassive options seen tree entries⟩

/-- An observer who counts. -/
def counting : Observer Nat := fun _ _ now => (now.1 + 1, now.2)

/-- The second of four entries halts the batch, and the observer is told of all four. -/
theorem watch_accounts_linked :
    let ending := watch (halting false) counting 0 linkedTree linkedEntries
    ending.report.counts = ⟨1, 0, 1, 2⟩ ∧ ending.seen = 4 ∧ ending.report.halted = true ∧
      ending.report.failures.length = 1 ∧
      run (halting false) linkedTree linkedEntries = (ending.report, ending.tree) := by
  intro ending
  obtain ⟨accounts, -, same⟩ := watch_accounts (halting false) counting 0 linkedTree linkedEntries
  have halted : ending.report.halted = true := by decide +kernel
  obtain ⟨-, single⟩ := accounts.once halted
  exact ⟨by decide +kernel, by decide +kernel, halted, single, same fun _ _ _ => rfl⟩

end Batch
end Relabel
