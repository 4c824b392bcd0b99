import Relabel.Proofs.Accounting
import Relabel.Session

/-!
# The loop of a batch and those who are told

A batch is known in three forms. `Batch.run` is the recursion that most of this theory is about, `Batch.watch` is the
loop with an observer, and `Batch.workThrough` is the loop wherever the files are, which is what the program runs on
the files of the operating system. **They are one batch.** The loop is the observed one if the files are those of a tree
(`Batch.workThrough_eq_watch`), and an observer who leaves the tree alone makes no difference
(`Batch.watch_of_isPassive`).

Of such an observer there is one in every session. It tells of each entry as soon as its outcome is known, and it counts
for itself how many there have been. **What it has told in the end can be read off the report** (`Batch.watch_teller`):
it is what `Telling.steps` says of the lines, although the observer never saw a report. A session is known by its report
alone therefore (`Session.work_eq`).
-/

namespace Relabel
namespace Batch

variable {σ : Type} (options : Options) (observe : Observer σ) (seen : σ) (tree : Tree) (entries : List Entry)

/-! ## The loop -/

/-- One round of the loop is one round of the observed loop. Whether the entry is tried is settled by the report
alone, before either of them looks at the tree. -/
theorem dealWith_eq_advance (now : Underway σ) (entry : Entry) :
    dealWith options attemptHere (tellObserver observe) now.report entry (now.seen, now.tree) =
      ((advance options observe now entry).report, (advance options observe now entry).seen,
        (advance options observe now entry).tree) := by
  unfold dealWith advance step
  -- Whether an entry is tried is settled before the tree is looked at.
  cases withoutTrying options now.report.halted entry <;> rfl

/-- **On a tree, the loop is the loop under observation**, whoever observes it. What the loop hands on from round to
round is what the observer has seen and the tree, and nothing of this is said in the loop itself; so the same loop can
be run where there is no tree to look at but only files to be read and written. -/
theorem workThrough_eq_watch :
    workThrough options attemptHere (tellObserver observe) entries (seen, tree) =
      ((watch options observe seen tree entries).report, (watch options observe seen tree entries).seen,
        (watch options observe seen tree entries).tree) := by
  have rounds (now : Underway σ) :
      entries.foldlM (dealWith options attemptHere (tellObserver observe)) now.report (now.seen, now.tree) =
        ((entries.foldl (advance options observe) now).report, (entries.foldl (advance options observe) now).seen,
          (entries.foldl (advance options observe) now).tree) := by
    induction entries generalizing now with
    | nil => rfl
    | cons entry rest ih =>
      let round := dealWith options attemptHere (tellObserver observe)
      have first : round now.report entry (now.seen, now.tree) = _ := dealWith_eq_advance options observe now entry
      rw [List.foldlM_cons, List.foldl_cons, ← ih]
      show rest.foldlM round (round now.report entry (now.seen, now.tree)).1
        (round now.report entry (now.seen, now.tree)).2 = _
      rw [first]
  exact rounds ⟨⟨[], false⟩, tree, seen⟩

end Batch

namespace Telling

variable (mode : OutputMode) (log : Report.Line → List Emission) (total : Nat)

/-- The last line of a report is told of last, after all that was told of the lines in front of it, and with the count
that it has. -/
theorem steps_concat (before : Nat) (lines : List Report.Line) (line : Report.Line) :
    steps mode log total before (lines ++ [line]) =
      steps mode log total before lines ++ (log line ++ progress mode (before + lines.length + 1) total line) := by
  induction lines generalizing before with
  | nil => simp only [List.nil_append, steps, List.append_nil, List.length_nil, Nat.add_zero]
  | cons first rest ih =>
    have later : before + 1 + rest.length + 1 = before + (first :: rest).length + 1 := by
      rw [List.length_cons]
      omega
    rw [List.cons_append, steps, steps, ih, later]
    simp only [List.append_assoc]

/-- How far a batch has come, with what is told of the lines of its report as what has been told. -/
def told (now : Batch.Underway Unit) : Batch.Underway (Nat × List Emission) :=
  ⟨now.report, now.tree, now.report.lines.length, steps mode log total 0 now.report.lines⟩

end Telling

namespace Batch

variable (options : Options) (tree : Tree) (entries : List Entry)

/-- **What is told of a batch while it is under way can be read off its report**, and to tell of it makes no
difference to it. The observer keeps a count of its own and what it has told so far. After any number of rounds the
count is the number of lines, and what has been told is what `Telling.steps` makes of the lines, which is the
invariant (`Telling.told`). -/
theorem watch_teller (mode : OutputMode) (log : Report.Line → List Emission) (total : Nat) :
    watch options (Telling.teller mode log total) (0, []) tree entries =
      ⟨(run options tree entries).1, (run options tree entries).2, (run options tree entries).1.lines.length,
        Telling.steps mode log total 0 (run options tree entries).1.lines⟩ := by
  let nobody : Observer Unit := fun _ _ now => now
  have step (now : Underway Unit) (entry : Entry) :
      advance options (Telling.teller mode log total) (Telling.told mode log total now) entry =
        Telling.told mode log total (advance options nobody now entry) := by
    simp only [advance, Telling.teller, Telling.told, nobody, Telling.steps_concat, List.length_append,
      List.length_singleton, Nat.zero_add]
  have same : watch options (Telling.teller mode log total) (0, []) tree entries =
      Telling.told mode log total (watch options nobody () tree entries) := by
    show entries.foldl _ (Telling.told mode log total ⟨⟨[], false⟩, tree, ()⟩) = _
    exact List.foldl_hom (Telling.told mode log total) step
  have passive : Observer.IsPassive nobody := fun _ _ _ => rfl
  rw [same, watch_of_isPassive options () tree entries passive]
  rfl

end Batch

namespace Session

/-- **A session is known by the report of its batch.** What it prints while the batch is under way, what it prints in
the end, what it exits with and the tree that it leaves can all be told from what `Batch.run` makes of the entries. -/
theorem work_eq (mode : OutputMode) (surroundings : Surroundings) (settings : Settings) (directory : Path)
    (entries : List Entry) (tree : Tree) :
    work mode surroundings settings directory entries tree =
      { emissions :=
          Telling.listing mode entries :: emptyWarning mode directory entries ++
            Telling.batch mode surroundings.colour
              (logged mode (Log.Filter.ofRun surroundings.filter settings.verbosity) surroundings.time) directory
              (Batch.run settings.options tree entries).1
        exit := reportExit (Batch.run settings.options tree entries).1
        tree := (Batch.run settings.options tree entries).2 } := by
  have length : (Batch.run settings.options tree entries).1.lines.length = entries.length := by
    rw [← List.length_map (·.entry), Batch.run, Batch.entries_runFrom]
  rw [work, Batch.watch_teller, Telling.batch, length]

end Session
end Relabel
