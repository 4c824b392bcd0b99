import Relabel.Proofs.Session

/-!
# What a session can reach

**A session changes the bytes of files to which children of its directory lead, and nothing else** (`run_stays_within`).
The children are the names that the directory has before the session, and it is their paths that count: a child that
is a link reaches as far as the link does, out of the directory too, while a file further down is out of reach unless
a child leads to it by another way.

The reason lies in the history of a batch. Each file in it was opened by the path of an entry, and in the tree as it
was then; but trees look alike all through a batch, so the path has led to the file from the beginning
(`leads_of_mem_writtenFrom`). The entries of a session are the children of its directory, and where there is no batch
the tree is left alone.
-/

namespace Relabel

namespace Batch

variable {options : Options} {halted : Bool} {tree : Tree} {entries : List Entry} {id : NodeId}

/-- Every file that is replaced while entries are worked through is one to which the path of an entry leads, in the
tree as it was at first: no step changes where a path leads. -/
theorem leads_of_mem_writtenFrom (there : id ∈ writtenFrom options halted tree entries) :
    ∃ entry ∈ entries, tree.resolve entry.path true = .ok id := by
  induction entries generalizing halted tree with
  | nil => cases there
  | cons entry rest ih =>
    rcases step_cases options halted tree entry with ⟨outcome, notRenamed, -, hs⟩ | ⟨first, old, new, revises, hs⟩
    · rw [writtenFrom_of_left hs notRenamed] at there
      obtain ⟨other, among, leads⟩ := ih there
      exact ⟨other, List.mem_cons_of_mem entry among, leads⟩
    · rw [writtenFrom_of_revises hs revises, List.mem_cons] at there
      rcases there with rfl | there
      · exact ⟨entry, List.mem_cons_self, (Tree.openFile_ok_iff.mp revises.opened).1⟩
      · obtain ⟨other, among, leads⟩ := ih there
        rw [(Tree.alike_replaceContents tree first new).resolve] at leads
        exact ⟨other, List.mem_cons_of_mem entry among, leads⟩

/-- **A node that a batch changes is a file to which the path of an entry leads**, and it holds the revision of its
bytes. It is in the history of the batch, since no other node is touched. -/
theorem leads_of_changed (changed : (run options tree entries).2.node? id ≠ tree.node? id) :
    (∃ entry ∈ entries, tree.resolve entry.path true = .ok id) ∧
      ∃ old new, tree.content? id = some (.file old) ∧ IsRevision old new ∧
        (run options tree entries).2.content? id = some (.file new) := by
  obtain ⟨rewrote, -⟩ := rewrote_runFrom options false tree entries
  have there : id ∈ writtenFrom options false tree entries := by
    by_contra notThere
    exact changed (rewrote.others id notThere)
  exact ⟨leads_of_mem_writtenFrom there, rewrote.revised id there⟩

end Batch

namespace Session

variable {tree : Tree} {arguments : List String} {settings : Settings} {entries : List Entry}

/-- A session that stops at its arguments leaves the tree. -/
theorem tree_run_of_stop (surroundings : Surroundings) (tree : Tree) {stop : Stop}
    (stopped : CommandLine.read arguments = .error stop) : (run surroundings arguments tree).tree = tree := by
  simp only [run, stopped]

/-- A session whose directory cannot be listed leaves the tree; any other one leaves it as its batch does. -/
theorem tree_run (surroundings : Surroundings) (tree : Tree) (accepted : CommandLine.read arguments = .ok settings) :
    (run surroundings arguments tree).tree =
      match tree.entries (Path.ofString settings.directory) with
      | .error _ => tree
      | .ok entries => (Batch.run settings.options tree entries).2 := by
  simp only [run, accepted, runWith]
  cases tree.entries (Path.ofString settings.directory) with
  | error failure => rfl
  | ok entries => exact congrArg Ending.tree (work_eq ..)

/-- **The two ways in which a session can leave the tree**: as it was, or as the batch over the children of its
directory does. -/
theorem tree_run_cases (surroundings : Surroundings) (arguments : List String) (tree : Tree) :
    (run surroundings arguments tree).tree = tree ∨
      ∃ settings names, CommandLine.read arguments = .ok settings ∧
        tree.entryNames (Path.ofString settings.directory) = .ok names ∧
        (run surroundings arguments tree).tree = (Batch.run settings.options tree
          (names.map fun name => Entry.ofPath tree ((Path.ofString settings.directory).join name))).2 := by
  cases accepted : CommandLine.read arguments with
  | error stop => exact .inl (tree_run_of_stop surroundings tree accepted)
  | ok settings =>
    rw [tree_run surroundings tree accepted]
    cases listed : tree.entries (Path.ofString settings.directory) with
    | error failure => exact .inl rfl
    | ok entries =>
      obtain ⟨names, named, rfl⟩ := Tree.entries_ok_iff.mp listed
      exact .inr ⟨settings, names, rfl, named, rfl⟩

/-- **A session stays with the children of its directory.** Nothing comes into being or goes away: every number has a
node of the same kind as before, with the same entries or target, the same permission bits and the same owner and group,
so that every path leads where it led. A node that is not exactly as it was is a regular file to which the path of a
child of the directory leads, and it holds the revision of the bytes that it held before. -/
theorem run_stays_within (surroundings : Surroundings) (arguments : List String) (tree : Tree) :
    tree.Alike (run surroundings arguments tree).tree ∧
      (∀ path last, (run surroundings arguments tree).tree.resolve path last = tree.resolve path last) ∧
      ∀ id, (run surroundings arguments tree).tree.node? id ≠ tree.node? id →
        ∃ settings names name, CommandLine.read arguments = .ok settings ∧
          tree.entryNames (Path.ofString settings.directory) = .ok names ∧ name ∈ names ∧
          tree.resolve ((Path.ofString settings.directory).join name) true = .ok id ∧
          ∃ old new, tree.content? id = some (.file old) ∧ IsRevision old new ∧
            (run surroundings arguments tree).tree.content? id = some (.file new) := by
  rcases tree_run_cases surroundings arguments tree with left | ⟨settings, names, accepted, named, worked⟩
  · rw [left]
    exact ⟨.refl tree, fun _ _ => rfl, fun id changed => absurd rfl changed⟩
  · rw [worked]
    have alike := Batch.alike_runFrom tree
      (names.map fun name => Entry.ofPath tree ((Path.ofString settings.directory).join name)) settings.options false
    refine ⟨alike, fun path last => alike.resolve path last, fun id changed => ?_⟩
    obtain ⟨⟨entry, among, leads⟩, revised⟩ := Batch.leads_of_changed changed
    obtain ⟨name, there, rfl⟩ := List.mem_map.mp among
    exact ⟨settings, names, name, accepted, named, there, leads, revised⟩

/-- A directory `d` with a link out of it and a directory in it, and two files outside, to one of which the link
leads. -/
@[irreducible]
def scatteredTree : Tree where
  nodes :=
    [⟨.directory 0 [(Ascii.bytes "d", 1), (Ascii.bytes "x", 2), (Ascii.bytes "y", 3)], 0o755, .owner⟩,
      ⟨.directory 0 [(Ascii.bytes "link", 4), (Ascii.bytes "inner", 5)], 0o755, .owner⟩,
      ⟨.file (Ascii.bytes "\x7b\"with\":1\x7d"), 0o644, .owner⟩,
      ⟨.file (Ascii.bytes "\x7b\"with\":2\x7d"), 0o644, .owner⟩,
      ⟨.link (.ofString "../x"), 0o777, .owner⟩,
      ⟨.directory 1 [(Ascii.bytes "deep", 6)], 0o755, .owner⟩,
      ⟨.file (Ascii.bytes "\x7b\"with\":3\x7d"), 0o644, .owner⟩]
  here := 0
  user := .ordinary

/-- The file outside to which the link leads is revised; the other one and the file further down are not. -/
theorem run_stays_within_scattered :
    let after := (run ⟨none, false, ""⟩ ["rekey", "-k", "d"] scatteredTree).tree
    after.node? 2 ≠ scatteredTree.node? 2 ∧ after.node? 3 = scatteredTree.node? 3 ∧
      after.node? 6 = scatteredTree.node? 6 ∧
      ∃ names name, scatteredTree.entryNames (.ofString "d") = .ok names ∧ name ∈ names ∧
        scatteredTree.resolve ((Path.ofString "d").join name) true = .ok 2 := by
  intro after
  have accepted : CommandLine.read ["rekey", "-k", "d"] = .ok ⟨"d", ⟨.keepGoing, false⟩, 0, .interactive⟩ := by cbv
  have worked : after = (match scatteredTree.entries (.ofString "d") with
      | .error _ => scatteredTree
      | .ok entries => (Batch.run ⟨.keepGoing, false⟩ scatteredTree entries).2) :=
    tree_run ⟨none, false, ""⟩ scatteredTree accepted
  have changed : after.node? 2 ≠ scatteredTree.node? 2 := by
    rw [worked]
    decide +kernel
  have others : after.node? 3 = scatteredTree.node? 3 ∧ after.node? 6 = scatteredTree.node? 6 := by
    rw [worked]
    decide +kernel
  obtain ⟨-, -, within⟩ := run_stays_within ⟨none, false, ""⟩ ["rekey", "-k", "d"] scatteredTree
  obtain ⟨settings, names, name, accepted', named, there, leads, -⟩ := within 2 changed
  rw [accepted] at accepted'
  cases accepted'
  exact ⟨changed, others.1, others.2, names, name, named, there, leads⟩

end Session
end Relabel
