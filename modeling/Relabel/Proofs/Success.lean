import Relabel.Proofs.Listing
import Relabel.Proofs.Order
import Relabel.Proofs.Replacement
import Relabel.Proofs.Skipping

/-!
# When all goes well

Whether anything fails can be told before anything is done. **A batch goes without a failure exactly if, in the tree
as it is at first, every entry can be converted or is skipped, and no two entries lead to one file**
(`succeeds_iff`). For the children of a directory, `Tree.Ready` says so in the directory's own terms (`ready_iff`).

That this is enough is the independence of steps: entries that lead to different files have the outcomes that they
would have alone. That it is needed is seen from behind. If the rest goes well after the first entry, its entries are
apart, so each of them goes well alone there; but where the first entry was converted, no entry goes well that leads
to the same file (`refused_of_isRevision`).
-/

namespace Relabel
namespace Tree

variable {tree : Tree} {path other : Path}

/-- What a path leads to can be converted: it is a regular file, it can be opened for reading and writing, and its
bytes are the text of an object that has a member with the name to give up. -/
def Convertible (tree : Tree) (path : Path) : Prop :=
  tree.stat path = .ok .file ∧
    ∃ id members, tree.openFile path = .ok id ∧ Document.read (tree.contents id) = .ok (.object members) ∧
      sourceName ∈ Members.names members

/-- **A path can be converted exactly if there is a revision of what it leads to.** The one says so in terms of paths
and members, the other one in terms of the file that is replaced. -/
theorem convertible_iff_revises : tree.Convertible path ↔ ∃ id old new, tree.Revises path id old new := by
  constructor
  · rintro ⟨stat, id, members, opened, read, there⟩
    have revision := isRevision_iff.mpr ⟨members, read, there, rfl⟩
    exact ⟨id, _, _, stat, opened, content?_of_openFile stat opened, revision⟩
  · rintro ⟨id, old, new, revises⟩
    obtain ⟨members, read, there, -⟩ := isRevision_iff.mp revises.revision
    have holds : tree.contents id = old := by simp only [contents, revises.content]
    exact ⟨revises.stat, id, members, revises.opened, holds ▸ read, there⟩

/-- Whether a file can be converted does not depend on the path that leads to it. -/
theorem SameFile.convertible (same : tree.SameFile path other) : tree.Convertible path ↔ tree.Convertible other := by
  obtain ⟨place, -⟩ := sameFile_iff.mp same
  rw [Convertible, Convertible, stat_congr place, openFile_congr place]

/-- Before anything is done, all is well with the children of a directory. -/
structure Ready (tree : Tree) (skipDirectories : Bool) (directory : Path) (names : List Name) : Prop where
  /-- The directory can be listed, and these are the names. -/
  listed : tree.entryNames directory = .ok names
  /-- Every child leads to a directory, if those are skipped, or can be converted. -/
  each : ∀ name ∈ names,
    skipDirectories = true ∧ tree.stat (directory.join name) = .ok .directory ∨
      tree.Convertible (directory.join name)
  /-- No two children lead to one file. -/
  apart : names.Pairwise fun name other => ¬ tree.SameFile (directory.join name) (directory.join other)

end Tree

namespace Batch

variable {skipDirectories : Bool} {tree : Tree} {entry : Entry} {entries : List Entry}

/-- Alone, an entry goes well if it is skipped or can be converted. -/
theorem alone_succeeds_iff :
    (alone skipDirectories tree entry).isFailure = false ↔
      (skipDirectories && entry.isDirectory) = true ∨ tree.Convertible entry.path := by
  rw [alone, step_keeping, Tree.convertible_iff_revises]
  split
  · next skipped => exact iff_of_true rfl (.inl skipped)
  next tried =>
    rw [or_iff_right tried]
    rcases tree.reviseFile_cases entry.path with ⟨failure, refused, hr⟩ | ⟨id, old, new, revises, hr⟩
    · rw [attempt, hr]
      refine iff_of_false (Bool.not_eq_false _ |>.mpr rfl) ?_
      rintro ⟨id, old, new, revises⟩
      exact refused.not_revises revises
    · rw [attempt, hr]
      exact iff_of_true rfl ⟨id, old, new, revises⟩

theorem hasFailures_eachAlone :
    (eachAlone skipDirectories tree entries).hasFailures = false ↔
      ∀ entry ∈ entries, (skipDirectories && entry.isDirectory) = true ∨ tree.Convertible entry.path := by
  simp only [Report.hasFailures, eachAlone, List.any_eq_false, List.forall_mem_map, Bool.not_eq_true,
    alone_succeeds_iff]

theorem not_skipped_of_file (skipDirectories : Bool) (current : entry.isDirectory = tree.isDirectory entry.path)
    (file : tree.stat entry.path = .ok .file) : (skipDirectories && entry.isDirectory) = false := by
  have notDirectory : tree.isDirectory entry.path = false := by simp only [Tree.isDirectory, file]
  rw [current, notDirectory, Bool.and_false]

/-- **After an entry has been worked through, every other one that leads to the same file fails.** There is nothing
left to do for the first entry, be it that it was revised or that it never could be. Neither is there for the other
one, whose path still leads to that file. -/
theorem alone_of_sameFile (skipDirectories : Bool) {other : Entry}
    (current : entry.isDirectory = tree.isDirectory entry.path)
    (currentOther : other.isDirectory = tree.isDirectory other.path)
    (same : tree.SameFile entry.path other.path) :
    (alone skipDirectories (step (keeping skipDirectories) false tree entry).2 other).isFailure ≠ false := by
  have alike := alike_runFrom tree [entry] (keeping skipDirectories) false
  have tried := not_skipped_of_file skipDirectories current (Tree.sameFile_iff.mp same).2
  have triedOther := not_skipped_of_file skipDirectories currentOther (Tree.sameFile_iff.mp same.symm).2
  obtain ⟨failure, refused⟩ := done_runFrom skipDirectories tree [entry] entry List.mem_cons_self tried
  intro succeeds
  rcases alone_succeeds_iff.mp succeeds with skipped | convertible
  · rw [triedOther] at skipped
    cases skipped
  · have stillSame := (alike.sameFile entry.path other.path).mpr same
    obtain ⟨id, old, new, revises⟩ := Tree.convertible_iff_revises.mp (stillSame.convertible.mpr convertible)
    exact refused.not_revises revises

/-- **Entries that all go well are apart.** The induction is on the entries, seen from behind: those behind the first
one go well after it, so they are apart, and each goes well alone there; but none does that leads to the file of the
first. -/
theorem apart_of_succeeds (current : Current tree entries)
    (succeeds : (runFrom (keeping skipDirectories) false tree entries).1.hasFailures = false) :
    Apart tree entries := by
  induction entries generalizing tree with
  | nil => exact List.Pairwise.nil
  | cons entry rest ih =>
    have alike := alike_runFrom tree [entry] (keeping skipDirectories) false
    have others : Current tree rest := fun other there => current other (List.mem_cons_of_mem entry there)
    rw [runFrom_cons, haltsAfter_keeping, Bool.or_false, Report.hasFailures, List.any_cons, Bool.or_eq_false_iff]
      at succeeds
    have later := ih (others.after_step (keeping skipDirectories) false entry) succeeds.2
    -- The rest is apart, so each of its entries goes well alone.
    have each := succeeds.2
    rw [runFrom_apart later] at each
    refine List.pairwise_cons.mpr ⟨fun other there same => ?_, later.imp fun apart same => ?_⟩
    · have fails := alone_of_sameFile skipDirectories (current entry List.mem_cons_self) (others other there) same
      exact fails (alone_succeeds_iff.mpr (hasFailures_eachAlone.mp each other there))
    · exact apart ((alike.sameFile _ _).mpr same)

/-- **Whether a batch goes well can be told from the tree before it.** The policy is of no account, because up to the
first failure both do the same. That the conditions are enough is the independence of steps, by which each entry has
the outcome that it would have alone; that they are needed is `apart_of_succeeds`. -/
theorem succeeds_iff (current : Current tree entries) (policy : Policy) :
    (run ⟨policy, skipDirectories⟩ tree entries).1.hasFailures = false ↔
      (∀ entry ∈ entries, (skipDirectories && entry.isDirectory) = true ∨ tree.Convertible entry.path) ∧
        Apart tree entries := by
  rw [hasFailures_run]
  constructor
  · intro succeeds
    have apart := apart_of_succeeds current succeeds
    rw [run, runFrom_apart apart] at succeeds
    exact ⟨hasFailures_eachAlone.mp succeeds, apart⟩
  · rintro ⟨each, apart⟩
    rw [run, runFrom_apart apart]
    exact hasFailures_eachAlone.mpr each

/-- All is well with the children of a directory exactly if nothing fails when they are worked through. -/
theorem ready_iff (options : Options) {directory : Path} {names : List Name}
    (listed : tree.entryNames directory = .ok names) :
    tree.Ready options.skipDirectories directory names ↔
      (run options tree (names.map fun name => Entry.ofPath tree (directory.join name))).1.hasFailures = false := by
  obtain ⟨policy, skipDirectories⟩ := options
  have current : Current tree (names.map fun name => Entry.ofPath tree (directory.join name)) := by
    have children := current_map tree (names.map directory.join)
    rwa [List.map_map] at children
  have asked : ∀ name, (skipDirectories && (Entry.ofPath tree (directory.join name)).isDirectory) = true ↔
      skipDirectories = true ∧ tree.stat (directory.join name) = .ok .directory := by
    intro name
    rw [Bool.and_eq_true, Entry.ofPath, Tree.isDirectory_iff]
  refine Iff.trans ?_ (succeeds_iff current policy).symm
  simp only [List.forall_mem_map, Apart, List.pairwise_map, asked]
  exact ⟨fun ready => ⟨ready.each, ready.apart⟩, fun ⟨each, apart⟩ => ⟨listed, each, apart⟩⟩

end Batch
end Relabel
