import Relabel.Proofs.Policy

/-!
# The order of entries

A directory lists its entries in any order, and a batch works through them in the order in which they are listed.
**As long as no two entries lead to one file, the order makes no difference.** Each entry has the outcome that it
would have alone (`alone`), and the tree afterwards is the same.

Where two entries do lead to one file, the first of them is renamed and the other one fails, so the condition is
needed. It is a condition on the tree before the batch: a revision does not change where paths lead.

Two steps for different files are independent of each other: neither changes the outcome of the other
(`step_alone`), and it does not matter which of the trees comes first (`step_comm`). The first of these gives the
report by induction on the entries, the second one the tree by induction on the permutation.
-/

namespace Relabel
namespace Tree

variable {tree tree' : Tree} {path other : Path} {id id' : NodeId} {old new : Bytes}

/-- Two paths lead to one regular file. -/
def SameFile (tree : Tree) (path other : Path) : Prop :=
  ∃ id bytes, tree.resolve path true = .ok id ∧ tree.resolve other true = .ok id ∧
    tree.content? id = some (.file bytes)

/-- Two paths lead to one regular file if they lead to the same place and a regular file is there. -/
theorem sameFile_iff :
    tree.SameFile path other ↔ tree.resolve path true = tree.resolve other true ∧ tree.stat path = .ok .file := by
  rw [stat_file_iff]
  constructor
  · rintro ⟨id, bytes, hp, ho, hc⟩
    exact ⟨hp.trans ho.symm, id, bytes, hp, hc⟩
  · rintro ⟨same, id, bytes, hp, hc⟩
    exact ⟨id, bytes, hp, same.symm.trans hp, hc⟩

instance : Decidable (tree.SameFile path other) := decidable_of_iff _ sameFile_iff.symm

theorem SameFile.symm (h : tree.SameFile path other) : tree.SameFile other path := by
  obtain ⟨id, bytes, hp, ho, hc⟩ := h
  exact ⟨id, bytes, ho, hp, hc⟩

theorem Alike.sameFile (alike : tree.Alike tree') (path other : Path) :
    tree'.SameFile path other ↔ tree.SameFile path other := by
  rw [sameFile_iff, sameFile_iff, alike.resolve, alike.resolve, alike.stat]

/-- Paths that do not lead to one file do not open one. -/
theorem Revises.openFile_ne (h : tree.Revises path id old new) (apart : ¬ tree.SameFile path other) :
    tree.openFile other ≠ .ok id := by
  intro opened
  exact apart ⟨id, old, (openFile_ok_iff.mp h.opened).1, (openFile_ok_iff.mp opened).1, h.content⟩

/-- What is refused is refused still after another file has been replaced, with the same failure. -/
theorem Refuses.after_other {failure : Failure} (h : tree.Refuses path failure) (apart : tree.openFile path ≠ .ok id)
    (bytes : Bytes) : (tree.replaceContents id bytes).Refuses path failure := by
  have alike := alike_replaceContents tree id bytes
  have kept : ∀ {k}, tree.openFile path = .ok k → (tree.replaceContents id bytes).contents k = tree.contents k := by
    intro k opened
    have differ : k ≠ id := by
      rintro rfl
      exact apart opened
    simp only [contents, content?_congr (node?_replaceContents_of_ne differ bytes)]
  cases h with
  | unreached hs => exact .unreached ((alike.stat path).trans hs)
  | noFile hs notFile => exact .noFile ((alike.stat path).trans hs) notFile
  | unopened hs ho => exact .unopened ((alike.stat path).trans hs) ((alike.openFile path).trans ho)
  | noDocument hs ho hread =>
    exact .noDocument ((alike.stat path).trans hs) ((alike.openFile path).trans ho) ((kept ho).symm ▸ hread)
  | noMember hs ho hread missing =>
    exact .noMember ((alike.stat path).trans hs) ((alike.openFile path).trans ho) ((kept ho).symm ▸ hread) missing

end Tree

namespace Batch

variable (skipDirectories : Bool) (tree : Tree)

/-- What becomes of an entry that is worked through alone. -/
def alone (entry : Entry) : Outcome := (step (keeping skipDirectories) false tree entry).1

/-- The report in which every entry has the outcome that it would have alone. -/
def eachAlone (entries : List Entry) : Report :=
  ⟨entries.map fun entry => ⟨entry, alone skipDirectories tree entry⟩, false⟩

variable {skipDirectories tree} {entry other : Entry} {entries entries' : List Entry} {id : NodeId}

/-! ## Two steps -/

/-- **A step is the same after another file has been replaced**: it has the same outcome and does the same to the
tree. Whether the file of this entry can be revised, and by what, depends on no other file; and two files can be
replaced in either order. -/
theorem step_after_other (apart : tree.openFile other.path ≠ .ok id) (new : Bytes) :
    step (keeping skipDirectories) false (tree.replaceContents id new) other =
      (alone skipDirectories tree other,
        (step (keeping skipDirectories) false tree other).2.replaceContents id new) := by
  unfold alone
  rw [step_keeping, step_keeping]
  split
  · rfl
  unfold attempt
  rcases tree.reviseFile_cases other.path with ⟨failure, refused, hr⟩ | ⟨id', old', new', revises, hr⟩
  · rw [hr, Tree.reviseFile_of_refuses (refused.after_other apart new)]
  · have differ : id' ≠ id := by
      rintro rfl
      exact apart revises.opened
    rw [hr, Tree.reviseFile_of_revises (revises.after_other differ new), Tree.replaceContents_comm differ]

/-- An entry has the outcome that it would have alone, whichever entry has been worked through before. -/
theorem step_alone (apart : ¬ tree.SameFile entry.path other.path) :
    alone skipDirectories (step (keeping skipDirectories) false tree entry).2 other =
      alone skipDirectories tree other := by
  rcases step_cases (keeping skipDirectories) false tree entry with
    ⟨outcome, -, -, hs⟩ | ⟨id, old, new, revises, hs⟩
  · rw [hs]
  · rw [hs, alone, step_after_other (revises.openFile_ne apart)]

/-- **Two steps can be taken in either order.** If one of them is no revision, it leaves the tree, and there is
nothing to exchange. If both are, they are revisions of different files, by paths that do not lead to one. -/
theorem step_comm (apart : ¬ tree.SameFile entry.path other.path) :
    (step (keeping skipDirectories) false (step (keeping skipDirectories) false tree entry).2 other).2 =
      (step (keeping skipDirectories) false (step (keeping skipDirectories) false tree other).2 entry).2 := by
  have apart' : ¬ tree.SameFile other.path entry.path := fun h => apart h.symm
  rcases step_cases (keeping skipDirectories) false tree entry with
    ⟨outcome, -, -, hs⟩ | ⟨id, old, new, revises, hs⟩
  · rcases step_cases (keeping skipDirectories) false tree other with
      ⟨outcome', -, -, hs'⟩ | ⟨id', old', new', revises', hs'⟩
    · rw [hs, hs', hs]
    · rw [hs, hs', step_after_other (revises'.openFile_ne apart'), hs]
  · rcases step_cases (keeping skipDirectories) false tree other with
      ⟨outcome', -, -, hs'⟩ | ⟨id', old', new', revises', hs'⟩
    · rw [hs, hs', hs, step_after_other (revises.openFile_ne apart), hs']
    · have differ : id' ≠ id := by
        rintro rfl
        exact revises.openFile_ne apart revises'.opened
      rw [hs, hs', step_after_other (revises.openFile_ne apart), step_after_other (revises'.openFile_ne apart'),
        hs, hs', Tree.replaceContents_comm differ.symm]

/-! ## Runs -/

/-- No two entries lead to one file. -/
def Apart (tree : Tree) (entries : List Entry) : Prop :=
  entries.Pairwise fun entry other => ¬ tree.SameFile entry.path other.path

instance : Decidable (Apart tree entries) := inferInstanceAs (Decidable (List.Pairwise _ entries))

theorem Apart.perm (h : Apart tree entries) (perm : entries.Perm entries') : Apart tree entries' :=
  perm.pairwise h fun apart same => apart same.symm

/-- Entries stay apart, because a step does not change where they lead. -/
theorem Apart.after_step (h : Apart tree entries) :
    Apart (step (keeping skipDirectories) false tree entry).2 entries := by
  have alike := alike_runFrom tree [entry] (keeping skipDirectories) false
  exact h.imp fun apart same => apart ((alike.sameFile _ _).mp same)

/-- Keeping going over entries that are apart, each of them has the outcome that it would have alone. -/
theorem runFrom_apart (h : Apart tree entries) :
    (runFrom (keeping skipDirectories) false tree entries).1 = eachAlone skipDirectories tree entries := by
  induction entries generalizing tree with
  | nil => rfl
  | cons entry rest ih =>
    obtain ⟨first, others⟩ := List.pairwise_cons.mp h
    have stillApart : Apart (step (keeping skipDirectories) false tree entry).2 rest := Apart.after_step others
    have told := ih stillApart
    have same : ∀ other ∈ rest, alone skipDirectories (step (keeping skipDirectories) false tree entry).2 other =
        alone skipDirectories tree other := fun other there => step_alone (first other there)
    rw [runFrom_cons, haltsAfter_keeping, Bool.or_false, told]
    simp only [eachAlone, List.map_cons, Report.mk.injEq, List.cons.injEq, and_true]
    exact ⟨rfl, List.map_congr_left fun other there => by rw [same other there]⟩

/-- **The tree afterwards does not depend on the order.** The induction is on the permutation: two neighbours are
exchanged by `step_comm`, and entries stay apart when one of them has been worked through. -/
theorem tree_runFrom_perm (perm : entries.Perm entries') (h : Apart tree entries) :
    (runFrom (keeping skipDirectories) false tree entries).2 =
      (runFrom (keeping skipDirectories) false tree entries').2 := by
  induction perm generalizing tree with
  | nil => rfl
  | cons entry _ ih =>
    rw [runFrom_cons, runFrom_cons, haltsAfter_keeping, Bool.or_false]
    exact ih (Apart.after_step (List.pairwise_cons.mp h).2)
  | swap entry other rest =>
    have apart := (List.pairwise_cons.mp h).1 entry List.mem_cons_self
    simp only [runFrom_cons, haltsAfter_keeping, Bool.or_false]
    rw [step_comm apart]
  | trans perm _ ih ih' => exact (ih h).trans (ih' (h.perm perm))

variable (skipDirectories)

/-- **The order of entries that lead to different files makes no difference.** Keeping going, each entry has the
outcome that it would have alone, in any order, and the tree afterwards is the same. If nothing fails, that is so
of halting at the first failure, too. -/
theorem run_perm (apart : Apart tree entries) (perm : entries.Perm entries') :
    ∃ after,
      run (keeping skipDirectories) tree entries = (eachAlone skipDirectories tree entries, after) ∧
      run (keeping skipDirectories) tree entries' = (eachAlone skipDirectories tree entries', after) ∧
      ((run (keeping skipDirectories) tree entries).1.hasFailures = false →
        run (halting skipDirectories) tree entries = (eachAlone skipDirectories tree entries, after) ∧
        run (halting skipDirectories) tree entries' = (eachAlone skipDirectories tree entries', after)) := by
  have kept : run (keeping skipDirectories) tree entries =
      (eachAlone skipDirectories tree entries, (run (keeping skipDirectories) tree entries).2) :=
    Prod.ext (runFrom_apart apart) rfl
  have kept' : run (keeping skipDirectories) tree entries' =
      (eachAlone skipDirectories tree entries', (run (keeping skipDirectories) tree entries).2) :=
    Prod.ext (runFrom_apart (apart.perm perm)) (tree_runFrom_perm perm apart).symm
  refine ⟨_, kept, kept', fun succeeds => ?_⟩
  -- The same lines stand in either report, so nothing fails in the other order either.
  have succeeds' : (run (keeping skipDirectories) tree entries').1.hasFailures = false := by
    rw [kept] at succeeds
    rw [kept']
    exact ((perm.symm.map _).any_eq).trans succeeds
  rw [run_halting_of_succeeds _ _ _ succeeds, run_halting_of_succeeds _ _ _ succeeds']
  exact ⟨kept, kept'⟩

/-- Three entries that lead to three files, and the same entries from behind. -/
theorem run_perm_reversed :
    let entries := linkedEntries.tail
    Apart linkedTree entries ∧ entries.Perm entries.reverse ∧
      (run (keeping false) linkedTree entries).1.counts = ⟨2, 0, 1, 0⟩ ∧
      (run (keeping false) linkedTree entries.reverse).1 = eachAlone false linkedTree entries.reverse ∧
      (run (keeping false) linkedTree entries.reverse).2 = (run (keeping false) linkedTree entries).2 := by
  intro entries
  have apart : Apart linkedTree entries := by decide +kernel
  have perm : entries.Perm entries.reverse := (List.reverse_perm entries).symm
  obtain ⟨after, kept, kept', -⟩ := run_perm false apart perm
  refine ⟨apart, perm, by decide +kernel, ?_, ?_⟩
  · rw [kept']
  · rw [kept, kept']

end Batch
end Relabel
