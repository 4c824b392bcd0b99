import Mathlib.Logic.Function.Iterate
import Relabel.Proofs.Batch

/-!
# Halting and keeping going

A batch that halts at the first failure is the beginning of the batch that keeps going. **The two policies agree
up to the first failure**, that failure included, because a policy is not looked at before something has failed
(`step_policy`). Behind it the halting batch touches nothing, and the failure itself has changed nothing, so the
tree is the one that the entries in front of the failure leave (`run_halting_eq`).

**Halting is recovered from by keeping going.** Entries that were worked through leave nothing to do
(`done_runFrom`): each of them is skipped or refused ever after, for what was revised is not revised again. A
batch that keeps going therefore passes over them without changing anything (`runFrom_of_done`) and goes on where
the halting batch has stopped (`run_keeping_again`).
-/

namespace Relabel
namespace Batch

/-- The options of a batch that halts at the first failure. -/
def halting (skipDirectories : Bool) : Options := ⟨.firstError, skipDirectories⟩

/-- The options of a batch that keeps going. -/
def keeping (skipDirectories : Bool) : Options := ⟨.keepGoing, skipDirectories⟩

variable (options : Options) (skipDirectories halted : Bool) (tree : Tree) (entry : Entry)
  (entries earlier later : List Entry)

/-! ## Runs in parts -/

/-- The first entry is worked through by one step, and the others after it, on the tree that it leaves and as halted
as it leaves the batch. -/
theorem runFrom_cons :
    runFrom options halted tree (entry :: entries) =
      (⟨⟨entry, (step options halted tree entry).1⟩ ::
          (runFrom options (halted || haltsAfter options (step options halted tree entry).1)
            (step options halted tree entry).2 entries).1.lines,
        (runFrom options (halted || haltsAfter options (step options halted tree entry).1)
          (step options halted tree entry).2 entries).1.halted⟩,
        (runFrom options (halted || haltsAfter options (step options halted tree entry).1)
          (step options halted tree entry).2 entries).2) := rfl

theorem entries_runFrom : (runFrom options halted tree entries).1.lines.map (·.entry) = entries := by
  induction entries generalizing halted tree with
  | nil => rfl
  | cons entry rest ih =>
    rw [runFrom_cons, List.map_cons, ih]

/-- **Working through entries in a row** is working through the first of them, and then through the others from where
those have led: on their tree, and halted if they have halted. -/
theorem runFrom_append :
    runFrom options halted tree (earlier ++ later) =
      (⟨(runFrom options halted tree earlier).1.lines ++
          (runFrom options (runFrom options halted tree earlier).1.halted
            (runFrom options halted tree earlier).2 later).1.lines,
        (runFrom options (runFrom options halted tree earlier).1.halted
          (runFrom options halted tree earlier).2 later).1.halted⟩,
        (runFrom options (runFrom options halted tree earlier).1.halted
          (runFrom options halted tree earlier).2 later).2) := by
  induction earlier generalizing halted tree with
  | nil => rfl
  | cons entry rest ih =>
    rw [List.cons_append, runFrom_cons, ih, runFrom_cons, List.cons_append]

/-- **Once it has halted, a batch touches nothing**: the entries that are left have untouched lines, and the tree
stays. -/
theorem runFrom_halted :
    runFrom options true tree entries = (⟨entries.map (⟨·, .untouched⟩), true⟩, tree) := by
  induction entries with
  | nil => rfl
  | cons entry rest ih =>
    have untouched : step options true tree entry = (.untouched, tree) := rfl
    rw [runFrom_cons, untouched, Bool.true_or, ih, List.map_cons]

/-! ## One step -/

/-- The policy is not looked at before something has failed. -/
theorem step_policy :
    step (halting skipDirectories) false tree entry = step (keeping skipDirectories) false tree entry := rfl

/-- Keeping going, an entry is skipped, or it is tried. -/
theorem step_keeping :
    step (keeping skipDirectories) false tree entry =
      if skipDirectories && entry.isDirectory then (.skipped, tree) else attempt tree entry := by
  have tried : withoutTrying (keeping skipDirectories) false entry =
      if skipDirectories && entry.isDirectory then some .skipped else none := rfl
  unfold step
  rw [tried]
  cases skipDirectories && entry.isDirectory with
  | true => rfl
  | false => rfl

theorem haltsAfter_keeping (outcome : Outcome) : haltsAfter (keeping skipDirectories) outcome = false := rfl

theorem haltsAfter_halting (outcome : Outcome) :
    haltsAfter (halting skipDirectories) outcome = outcome.isFailure := rfl

variable {options skipDirectories halted tree entry entries earlier later}

/-- A step that fails leaves the tree. -/
theorem step_of_isFailure (h : (step options halted tree entry).1.isFailure = true) :
    (step options halted tree entry).2 = tree := by
  rcases step_cases options halted tree entry with ⟨outcome, -, -, hs⟩ | ⟨id, old, new, -, hs⟩
  · rw [hs]
  · rw [hs] at h
    cases h

theorem attempt_ne_untouched : (attempt tree entry).1 ≠ .untouched := by
  unfold attempt
  split <;> exact nofun

theorem attempt_ne_skipped : (attempt tree entry).1 ≠ .skipped := by
  unfold attempt
  split <;> exact nofun

variable (skipDirectories tree entries)

/-! ## Keeping going -/

theorem halted_keeping : (runFrom (keeping skipDirectories) false tree entries).1.halted = false := by
  induction entries generalizing tree with
  | nil => rfl
  | cons entry rest ih =>
    rw [runFrom_cons, haltsAfter_keeping, Bool.or_false]
    exact ih _

/-- Keeping going, every entry is skipped, if it is a directory and those are skipped, or tried. -/
theorem line_keeping {line : Report.Line}
    (there : line ∈ (runFrom (keeping skipDirectories) false tree entries).1.lines) :
    line.outcome ≠ .untouched ∧
      (line.outcome = .skipped ↔ (skipDirectories && line.entry.isDirectory) = true) := by
  induction entries generalizing tree with
  | nil => cases there
  | cons entry rest ih =>
    rw [runFrom_cons, haltsAfter_keeping, Bool.or_false] at there
    rcases List.mem_cons.mp there with rfl | there
    · show (step _ _ _ _).1 ≠ _ ∧ ((step _ _ _ _).1 = _ ↔ _)
      rw [step_keeping]
      split
      · next skipped => exact ⟨nofun, fun _ => skipped, fun _ => rfl⟩
      · next tried => exact ⟨attempt_ne_untouched, fun h => absurd h attempt_ne_skipped, fun h => absurd h tried⟩
    · exact ih _ there

/-! ## Up to the first failure -/

/-- **The halting batch, from the one that keeps going.** Without a failure they are the same. Otherwise the halting
one has the same lines up to the first failure and untouched ones behind it, and it leaves the tree that the entries
in front of the failure leave. The induction is on the entries; up to the first failure both batches take the same
steps, and a failing step leaves the tree. -/
theorem run_halting_eq :
    run (halting skipDirectories) tree entries =
      match (run (keeping skipDirectories) tree entries).1.lines.findIdx? (·.outcome.isFailure) with
      | none => run (keeping skipDirectories) tree entries
      | some i =>
        (⟨(run (keeping skipDirectories) tree entries).1.lines.take (i + 1) ++
            (entries.drop (i + 1)).map (⟨·, .untouched⟩), true⟩,
          (run (keeping skipDirectories) tree (entries.take i)).2) := by
  unfold run
  induction entries generalizing tree with
  | nil => rfl
  | cons entry rest ih =>
    rw [runFrom_cons (keeping skipDirectories), runFrom_cons (halting skipDirectories), step_policy,
      haltsAfter_keeping, haltsAfter_halting]
    simp only [Bool.false_or, List.findIdx?_cons]
    cases fails : (step (keeping skipDirectories) false tree entry).1.isFailure with
    | true =>
      rw [runFrom_halted, step_of_isFailure fails]
      rfl
    | false =>
      rw [ih]
      -- The first failure is one of the rest, and its place counts from there.
      cases (runFrom (keeping skipDirectories) false
        (step (keeping skipDirectories) false tree entry).2 rest).1.lines.findIdx? (·.outcome.isFailure) with
      | none => rfl
      | some i => rfl

/-- Without a failure the policy makes no difference. -/
theorem run_halting_of_succeeds (h : (run (keeping skipDirectories) tree entries).1.hasFailures = false) :
    run (halting skipDirectories) tree entries = run (keeping skipDirectories) tree entries := by
  rw [run_halting_eq]
  split
  · rfl
  next i first =>
    obtain ⟨inside, fails, -⟩ := List.findIdx?_eq_some_iff_getElem.mp first
    have clean := List.any_eq_false.mp h _ (List.getElem_mem inside)
    exact absurd fails clean

/-- Whether anything fails does not depend on the policy. -/
theorem hasFailures_run (policy : Policy) :
    (run ⟨policy, skipDirectories⟩ tree entries).1.hasFailures =
      (run (keeping skipDirectories) tree entries).1.hasFailures := by
  cases policy with
  | keepGoing => rfl
  | firstError =>
    show (run (halting skipDirectories) tree entries).1.hasFailures = _
    rw [run_halting_eq]
    split
    · rfl
    next i first =>
      -- The first failure is a line of either report.
      obtain ⟨inside, fails, -⟩ := List.findIdx?_eq_some_iff_getElem.mp first
      have kept := List.mem_take_iff_getElem.mpr ⟨i, Nat.lt_min.mpr ⟨i.lt_succ_self, inside⟩, rfl⟩
      have there := List.mem_append_left ((entries.drop (i + 1)).map (⟨·, .untouched⟩)) kept
      have failsKeeping : (run (keeping skipDirectories) tree entries).1.hasFailures = true :=
        List.any_eq_true.mpr ⟨_, List.getElem_mem inside, fails⟩
      rw [failsKeeping]
      exact List.any_eq_true.mpr ⟨_, there, fails⟩

/-- **The policies agree up to the first failure.** Keeping going never halts and leaves no entry untouched. If
nothing fails, halting at the first failure makes no difference. If the entry at `i` is the first to fail, the
halting batch has the same outcomes up to that one, the failure included, and only untouched entries behind it; it
has halted, and it leaves the tree as keeping going through the first `i` entries does. -/
theorem run_agrees_until_failure :
    (run (keeping skipDirectories) tree entries).1.halted = false ∧
      (∀ line ∈ (run (keeping skipDirectories) tree entries).1.lines, line.outcome ≠ .untouched) ∧
      (run (keeping skipDirectories) tree entries).1.lines.map (·.entry) = entries ∧
      (run (halting skipDirectories) tree entries).1.lines.map (·.entry) = entries ∧
      match (run (keeping skipDirectories) tree entries).1.lines.findIdx? (·.outcome.isFailure) with
      | none => run (halting skipDirectories) tree entries = run (keeping skipDirectories) tree entries
      | some i =>
        (run (halting skipDirectories) tree entries).1.lines.take (i + 1) =
            (run (keeping skipDirectories) tree entries).1.lines.take (i + 1) ∧
          (∀ line ∈ (run (halting skipDirectories) tree entries).1.lines.drop (i + 1),
            line.outcome = .untouched) ∧
          (run (halting skipDirectories) tree entries).1.halted = true ∧
          (run (halting skipDirectories) tree entries).2 =
            (run (keeping skipDirectories) tree (entries.take i)).2 := by
  refine ⟨halted_keeping _ _ _, fun line there => (line_keeping _ _ _ there).1, entries_runFrom ..,
    entries_runFrom .., ?_⟩
  rw [run_halting_eq]
  cases first : (run (keeping skipDirectories) tree entries).1.lines.findIdx? (·.outcome.isFailure) with
  | none => rfl
  | some i =>
    have inside : i < (run (keeping skipDirectories) tree entries).1.lines.length :=
      (List.findIdx?_eq_some_iff_getElem.mp first).1
    have front : ((run (keeping skipDirectories) tree entries).1.lines.take (i + 1)).length = i + 1 := by
      rw [List.length_take]
      omega
    refine ⟨List.take_left' front, fun line there => ?_, rfl, rfl⟩
    rw [List.drop_left' front] at there
    obtain ⟨entry, -, rfl⟩ := List.mem_map.mp there
    rfl

/-- A working directory with two names for one file, a file that is no document, and a file of its own. It is
irreducible so that only the kernel computes what becomes of it. -/
@[irreducible]
def linkedTree : Tree where
  nodes :=
    [⟨.directory 0 [(Ascii.bytes "a", 1), (Ascii.bytes "b", 2), (Ascii.bytes "c", 1), (Ascii.bytes "d", 3)],
      0o755, .owner⟩,
      ⟨.file (Ascii.bytes "\x7b\"with\":1\x7d"), 0o644, .owner⟩, ⟨.file (Ascii.bytes "[1,"), 0o644, .owner⟩,
      ⟨.file (Ascii.bytes "\x7b\"with\":null\x7d"), 0o644, .owner⟩]
  here := 0
  user := .ordinary

/-- The entries of that directory. -/
@[irreducible]
def linkedEntries : List Entry :=
  ["a", "b", "c", "d"].map fun name => Entry.ofPath linkedTree (.ofString name)

/-- The second entry is the first to fail. The third leads to the file of the first, which keeping going finds
revised and halting does not look at. -/
theorem run_agrees_until_failure_linked :
    let keep := run (keeping false) linkedTree linkedEntries
    let halt := run (halting false) linkedTree linkedEntries
    keep.1.counts = ⟨2, 0, 2, 0⟩ ∧ halt.1.counts = ⟨1, 0, 1, 2⟩ ∧
      keep.1.lines.findIdx? (·.outcome.isFailure) = some 1 ∧
      halt.2 = (run (keeping false) linkedTree (linkedEntries.take 1)).2 := by
  intro keep halt
  have first : keep.1.lines.findIdx? (·.outcome.isFailure) = some 1 := by decide +kernel
  obtain ⟨-, -, -, -, agrees⟩ := run_agrees_until_failure false linkedTree linkedEntries
  rw [first] at agrees
  obtain ⟨-, -, -, same⟩ := agrees
  exact ⟨by decide +kernel, by decide +kernel, first, same⟩

/-! ## Nothing left to do -/

/-- Every entry is skipped or refused. -/
def Done (skipDirectories : Bool) (tree : Tree) (entries : List Entry) : Prop :=
  ∀ entry ∈ entries, (skipDirectories && entry.isDirectory) = false → ∃ failure, tree.Refuses entry.path failure

variable {skipDirectories tree entries}

/-- **A batch with nothing to do changes nothing**, and says so of every entry: what is refused has failed, and the
rest was skipped. The tree stays the same from step to step, and that is why there is still nothing to do at the next
one. -/
theorem runFrom_of_done (h : Done skipDirectories tree entries) :
    (runFrom (keeping skipDirectories) false tree entries).2 = tree ∧
      ∀ line ∈ (runFrom (keeping skipDirectories) false tree entries).1.lines,
        line.outcome.isFailure = true ∨ line.outcome = .skipped := by
  induction entries with
  | nil => exact ⟨rfl, fun _ there => nomatch there⟩
  | cons entry rest ih =>
    obtain ⟨left, told⟩ := ih fun other there => h other (List.mem_cons_of_mem _ there)
    have stays : ∃ outcome, (outcome.isFailure = true ∨ outcome = .skipped) ∧
        step (keeping skipDirectories) false tree entry = (outcome, tree) := by
      rw [step_keeping]
      split
      · exact ⟨.skipped, .inr rfl, rfl⟩
      · next tried =>
        obtain ⟨failure, refused⟩ := h entry List.mem_cons_self (Bool.eq_false_iff.mpr tried)
        refine ⟨.failed failure, .inl rfl, ?_⟩
        rw [attempt, Tree.reviseFile_of_refuses refused]
    obtain ⟨outcome, said, hs⟩ := stays
    rw [runFrom_cons, hs, haltsAfter_keeping, Bool.or_false]
    refine ⟨left, fun line there => ?_⟩
    rcases List.mem_cons.mp there with rfl | there
    · exact said
    · exact told line there

variable (skipDirectories tree entries)

/-- A tree looks as before when entries have been worked through, since no step does more to it than to replace a
file. -/
theorem alike_runFrom (options : Options) (halted : Bool) :
    tree.Alike (runFrom options halted tree entries).2 := by
  induction entries generalizing halted tree with
  | nil => exact .refl tree
  | cons entry rest ih =>
    rw [runFrom_cons]
    rcases step_cases options halted tree entry with ⟨outcome, -, -, hs⟩ | ⟨id, old, new, -, hs⟩
    · rw [hs]
      exact ih _ _
    · rw [hs]
      exact (Tree.alike_replaceContents tree id new).trans (ih _ _)

/-- **Working through entries leaves nothing to do.** Suppose that the file of an entry could be revised afterwards.
If the batch has revised it, it holds revised bytes, and those are refused. If not, the file is as it was before, it
could have been revised then, and a batch that keeps going leaves no such file out. -/
theorem done_runFrom : Done skipDirectories (runFrom (keeping skipDirectories) false tree entries).2 entries := by
  intro entry there tried
  obtain ⟨rewrote, -⟩ := rewrote_runFrom (keeping skipDirectories) false tree entries
  have alike := alike_runFrom tree entries (keeping skipDirectories) false
  rcases Tree.reviseFile_cases (runFrom (keeping skipDirectories) false tree entries).2 entry.path with
    ⟨failure, refused, -⟩ | ⟨id, old, new, revises, -⟩
  · exact ⟨failure, refused⟩
  exfalso
  by_cases written : id ∈ writtenFrom (keeping skipDirectories) false tree entries
  · -- What the file holds is a revision already.
    obtain ⟨old', new', -, revision, final⟩ := rewrote.revised id written
    rw [revises.content] at final
    cases final
    obtain ⟨failure, refused⟩ := refused_of_isRevision revision entry.path
    rw [revise_ok_iff.mpr revises.revision] at refused
    cases refused
  · -- The file is as before, so the batch would not have left it out.
    have before : tree.Revises entry.path id old new :=
      ⟨(alike.stat entry.path).symm.trans revises.stat, (alike.openFile entry.path).symm.trans revises.opened,
        (Tree.content?_congr (rewrote.others id written)).symm.trans revises.content, revises.revision⟩
    have lines := entries_runFrom (keeping skipDirectories) false tree entries
    obtain ⟨line, itsLine, rfl⟩ := List.mem_map.mp (lines.symm ▸ there)
    obtain ⟨notUntouched, skipped⟩ := line_keeping skipDirectories tree entries itsLine
    have notSkipped : line.outcome ≠ .skipped := fun h => by
      rw [skipped.mp h] at tried
      cases tried
    exact written (mem_writtenFrom_of_tried _ _ _ _ itsLine notSkipped notUntouched before)

/-- A batch can start over after some of its entries and comes to the same end. -/
theorem run_keeping_append (earlier later : List Entry) :
    (run (keeping skipDirectories) (run (keeping skipDirectories) tree earlier).2 (earlier ++ later)).2 =
      (run (keeping skipDirectories) tree (earlier ++ later)).2 := by
  have again := (runFrom_of_done (done_runFrom skipDirectories tree earlier)).1
  unfold run
  simp only [runFrom_append, halted_keeping, again]

/-- The tree that a batch leaves. -/
def treeAfter (options : Options) (entries : List Entry) (tree : Tree) : Tree := (run options tree entries).2

/-- **Keeping going recovers from halting.** A batch that halts, and then the same batch keeping going, leave the
tree that keeping going leaves from the start. Keeping going once more, any number of times, changes nothing, and
every entry has failed or was skipped then. -/
theorem run_keeping_again (n : Nat) :
    treeAfter (keeping skipDirectories) entries (treeAfter (halting skipDirectories) entries tree) =
        treeAfter (keeping skipDirectories) entries tree ∧
      (treeAfter (keeping skipDirectories) entries)^[n] (treeAfter (keeping skipDirectories) entries tree) =
        treeAfter (keeping skipDirectories) entries tree ∧
      ∀ line ∈ (run (keeping skipDirectories)
          ((treeAfter (keeping skipDirectories) entries)^[n] (treeAfter (keeping skipDirectories) entries tree))
          entries).1.lines,
        line.outcome.isFailure = true ∨ line.outcome = .skipped := by
  have done : Done skipDirectories (treeAfter (keeping skipDirectories) entries tree) entries :=
    done_runFrom skipDirectories tree entries
  have fixed : treeAfter (keeping skipDirectories) entries (treeAfter (keeping skipDirectories) entries tree) =
      treeAfter (keeping skipDirectories) entries tree := (runFrom_of_done done).1
  have always := Function.iterate_fixed fixed n
  refine ⟨?_, always, ?_⟩
  · unfold treeAfter
    rw [run_halting_eq]
    cases (run (keeping skipDirectories) tree entries).1.lines.findIdx? (·.outcome.isFailure) with
    | none => exact fixed
    | some i =>
      have recovered := run_keeping_append skipDirectories tree (entries.take i) (entries.drop i)
      rw [List.take_append_drop] at recovered
      exact recovered
  · rw [always]
    exact (runFrom_of_done done).2

/-- After halting at the second entry, keeping going twice revises the fourth and then nothing. -/
theorem run_keeping_again_linked :
    let halted := (run (halting false) linkedTree linkedEntries).2
    let recovered := (run (keeping false) halted linkedEntries).2
    halted.contents 3 = Ascii.bytes "\x7b\"with\":null\x7d" ∧
      recovered.contents 3 = Ascii.bytes "\x7b\n    \"expected\": null\n\x7d" ∧
      (run (keeping false) recovered linkedEntries).1.counts = ⟨0, 0, 4, 0⟩ ∧
      recovered = (run (keeping false) linkedTree linkedEntries).2 := by
  intro halted recovered
  refine ⟨by decide +kernel, by decide +kernel, by decide +kernel, ?_⟩
  exact (run_keeping_again false linkedTree linkedEntries 1).1

end Batch
end Relabel
