import Relabel.Proofs.Policy

/-!
# Skipping directories

To skip directories is to leave out what would have failed anyway. An entry that is skipped leads to a directory,
and if it were tried, it would fail for that reason and change nothing. **So nothing that could be revised is ever
skipped**: keeping going with and without skipping comes to the same tree and the same outcomes, but for the skipped
entries, which are failures without it.

Whether an entry is a directory is asked once, when the entry is made, and whether it is a regular file is asked
again when it is tried. The two answers fit together because a batch does not change what kind of thing a path
leads to (`Current.after_step`).

**To skip directories is also the same as not to have them among the entries.** This is so under either policy, for
a skipped entry does not halt a batch, and behind the failure that does halt it nothing is looked at.
-/

namespace Relabel

/-- What becomes of an entry when it is tried where it had been skipped. -/
def Outcome.unskipped (path : Path) : Outcome → Outcome
  | .skipped => .failed (.notAFile path)
  | other => other

/-- A line of a report with its entry tried where it had been skipped. -/
def Report.Line.unskipped (line : Report.Line) : Report.Line :=
  ⟨line.entry, line.outcome.unskipped line.entry.path⟩

namespace Tree

variable {tree tree' : Tree} {path : Path}

theorem isDirectory_iff : tree.isDirectory path = true ↔ tree.stat path = .ok .directory := by
  unfold isDirectory
  split
  · next h => exact iff_of_true rfl h
  · next h => exact iff_of_false Bool.false_ne_true h

theorem Alike.isDirectory (h : tree.Alike tree') (path : Path) : tree'.isDirectory path = tree.isDirectory path := by
  simp only [Tree.isDirectory, h.stat]

end Tree

namespace Batch

variable {tree : Tree} {entry : Entry} {entries : List Entry}

/-- What the entries say of directories is true of a tree. -/
def Current (tree : Tree) (entries : List Entry) : Prop :=
  ∀ entry ∈ entries, entry.isDirectory = tree.isDirectory entry.path

theorem current_map (tree : Tree) (paths : List Path) : Current tree (paths.map (Entry.ofPath tree)) := by
  intro entry there
  obtain ⟨path, -, rfl⟩ := List.mem_map.mp there
  rfl

/-- What the entries say stays true, because a step does not change where they lead. -/
theorem Current.after_step (h : Current tree entries) (options : Options) (halted : Bool) (entry : Entry) :
    Current (step options halted tree entry).2 entries := by
  intro other there
  have alike := alike_runFrom tree [entry] options halted
  exact (h other there).trans (alike.isDirectory other.path).symm

/-! ## Tried all the same -/

/-- A directory that is tried is refused for being no file, and nothing is changed. -/
theorem attempt_directory (h : tree.isDirectory entry.path = true) :
    attempt tree entry = (.failed (.notAFile entry.path), tree) := by
  have refused : tree.Refuses entry.path (.notAFile entry.path) := .noFile (Tree.isDirectory_iff.mp h) nofun
  rw [attempt, Tree.reviseFile_of_refuses refused]

/-- **A step without skipping** does the same to the tree as one with it. It has the same outcome, but that a
directory is not skipped: it has been tried, and has failed for being none. -/
theorem step_unskipped (h : entry.isDirectory = tree.isDirectory entry.path) :
    step (keeping false) false tree entry =
      ((step (keeping true) false tree entry).1.unskipped entry.path, (step (keeping true) false tree entry).2) := by
  rw [step_keeping, step_keeping, Bool.false_and, Bool.true_and, if_neg Bool.false_ne_true]
  cases directory : entry.isDirectory with
  | true =>
    rw [h] at directory
    exact attempt_directory directory
  | false =>
    rw [if_neg Bool.false_ne_true]
    refine Prod.ext ?_ rfl
    cases outcome : (attempt tree entry).1 with
    | skipped => exact absurd outcome attempt_ne_skipped
    | renamed | failed | untouched => rfl

/-- **Without skipping, keeping going**, all lines are what they were but those of directories, and the tree is the
same. The induction is on the entries; the trees are the same after each of them, and what the entries say of
directories stays true. -/
theorem runFrom_unskipped (h : Current tree entries) :
    runFrom (keeping false) false tree entries =
      (⟨(runFrom (keeping true) false tree entries).1.lines.map Report.Line.unskipped, false⟩,
        (runFrom (keeping true) false tree entries).2) := by
  induction entries generalizing tree with
  | nil => rfl
  | cons entry rest ih =>
    have first := step_unskipped (h entry List.mem_cons_self)
    have others : Current tree rest := fun other there => h other (List.mem_cons_of_mem entry there)
    have later := ih (others.after_step (keeping true) false entry)
    simp only [runFrom_cons, haltsAfter_keeping, Bool.or_false, first, later, List.map_cons,
      Report.Line.unskipped]

/-! ## Left out -/

variable (policy : Policy) (halted : Bool) (tree entry entries)

/-- Skipping directories, a directory is passed over, and the batch is as halted as it was. -/
theorem step_directory (directory : entry.isDirectory = true) :
    (step ⟨policy, true⟩ halted tree entry).2 = tree ∧
      (halted || haltsAfter ⟨policy, true⟩ (step ⟨policy, true⟩ halted tree entry).1) = halted := by
  have passed : withoutTrying ⟨policy, true⟩ halted entry = some (if halted then .untouched else .skipped) := by
    unfold withoutTrying
    rw [directory]
    cases halted <;> rfl
  unfold step
  rw [passed]
  refine ⟨rfl, ?_⟩
  cases halted with
  | true => rfl
  | false => cases policy <;> rfl

/-- **Skipping directories is leaving them out.** The induction is on the entries: a step that skips a directory
leaves the tree, and the batch as halted as it was, so that the others are worked through as if it had not been there.
-/
theorem runFrom_leaveOut :
    runFrom ⟨policy, true⟩ halted tree (entries.filter (!·.isDirectory)) =
      (⟨(runFrom ⟨policy, true⟩ halted tree entries).1.lines.filter (!·.entry.isDirectory),
        (runFrom ⟨policy, true⟩ halted tree entries).1.halted⟩,
        (runFrom ⟨policy, true⟩ halted tree entries).2) := by
  induction entries generalizing halted tree with
  | nil => rfl
  | cons entry rest ih =>
    cases directory : entry.isDirectory with
    | true =>
      obtain ⟨left, asHalted⟩ := step_directory tree entry policy halted directory
      rw [List.filter_cons_of_neg (by simp [directory]), runFrom_cons, asHalted, left, ih,
        List.filter_cons_of_neg (by simp [directory])]
    | false =>
      rw [List.filter_cons_of_pos (by simp [directory]), runFrom_cons, runFrom_cons, ih,
        List.filter_cons_of_pos (by simp [directory])]

/-! ## What skipping hides -/

/-- **Skipping hides directories and nothing else.** Of the entries of a tree, keeping going, the skipped ones lead
to directories; without skipping, the tree afterwards is the same and so are the outcomes, but that the skipped
entries have failed for leading to no regular file. Under either policy, a batch that skips directories is the same
batch without them: the same tree afterwards, halted or not as before, and the same outcome for each entry that is
left. -/
theorem run_skipping (paths : List Path) :
    (∀ line ∈ (run (keeping true) tree (paths.map (Entry.ofPath tree))).1.lines,
        line.outcome = .skipped → tree.stat line.entry.path = .ok .directory) ∧
      run (keeping false) tree (paths.map (Entry.ofPath tree)) =
        (⟨(run (keeping true) tree (paths.map (Entry.ofPath tree))).1.lines.map Report.Line.unskipped, false⟩,
          (run (keeping true) tree (paths.map (Entry.ofPath tree))).2) ∧
      run ⟨policy, true⟩ tree ((paths.map (Entry.ofPath tree)).filter (!·.isDirectory)) =
        (⟨(run ⟨policy, true⟩ tree (paths.map (Entry.ofPath tree))).1.lines.filter (!·.entry.isDirectory),
          (run ⟨policy, true⟩ tree (paths.map (Entry.ofPath tree))).1.halted⟩,
          (run ⟨policy, true⟩ tree (paths.map (Entry.ofPath tree))).2) := by
  have current := current_map tree paths
  refine ⟨?_, runFrom_unskipped current, runFrom_leaveOut ..⟩
  intro line there skipped
  have directory : line.entry.isDirectory = true := ((line_keeping true tree _ there).2.mp skipped)
  have entries := entries_runFrom (keeping true) false tree (paths.map (Entry.ofPath tree))
  have its : line.entry ∈ paths.map (Entry.ofPath tree) := by
    rw [← entries]
    exact List.mem_map_of_mem there
  rw [current line.entry its] at directory
  exact Tree.isDirectory_iff.mp directory

/-- A working directory with a file, a directory, a link to that directory, a link that leads nowhere, and a link to
the file. -/
@[irreducible]
def mixedTree : Tree where
  nodes :=
    [⟨.directory 0 [(Ascii.bytes "a", 1), (Ascii.bytes "b", 2), (Ascii.bytes "c", 3), (Ascii.bytes "d", 4),
        (Ascii.bytes "e", 5)], 0o755, .owner⟩,
      ⟨.file (Ascii.bytes "\x7b\"with\":[]\x7d"), 0o644, .owner⟩, ⟨.directory 0 [], 0o755, .owner⟩,
      ⟨.link (.ofString "b"), 0o777, .owner⟩, ⟨.link (.ofString "f"), 0o777, .owner⟩,
      ⟨.link (.ofString "a"), 0o777, .owner⟩]
  here := 0
  user := .ordinary

/-- The directory and the link to it are skipped, and they are what fails besides when nothing is skipped. The link
that leads nowhere is no directory: it is tried, and a batch that halts at failures halts at it. -/
theorem run_skipping_mixed :
    let paths := ["a", "b", "c", "d", "e"].map Path.ofString
    let entries := paths.map (Entry.ofPath mixedTree)
    (run (keeping true) mixedTree entries).1.counts = ⟨1, 2, 2, 0⟩ ∧
      (run (keeping false) mixedTree entries).1.counts = ⟨1, 0, 4, 0⟩ ∧
      (run (keeping false) mixedTree entries).2 = (run (keeping true) mixedTree entries).2 ∧
      (run (halting true) mixedTree entries).1.counts = ⟨1, 2, 1, 1⟩ ∧
      (run (halting true) mixedTree (entries.filter (!·.isDirectory))).1.halted = true := by
  intro paths entries
  have halts : (run (halting true) mixedTree entries).1.halted = true := by decide +kernel
  obtain ⟨-, tried, leftOut⟩ := run_skipping mixedTree .firstError paths
  have same := congrArg Prod.snd tried
  have haltedToo := congrArg (fun batch => batch.1.halted) leftOut
  exact ⟨by decide +kernel, by decide +kernel, same, by decide +kernel, haltedToo.trans halts⟩

end Batch
end Relabel
