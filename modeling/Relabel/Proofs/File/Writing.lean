import Relabel.Proofs.File.Access
import Relabel.Proofs.File.Alike
import Relabel.Revision

/-!
# What writing a file changes

A file that is replaced holds the new bytes and nothing else (`content?_replaceContents`), every other node
is what it was (`node?_replaceContents_of_ne`), and the tree looks as before (`alike_replaceContents`). The
first of these needs both requests: writing alone leaves the end of a longer file, cutting alone the old bytes.
Two different files can be replaced in either order (`replaceContents_comm`).
-/

namespace Relabel

/-- Bytes that were written over others and then cut to their own length stand alone. -/
theorem Bytes.resize_overwrite (old new : Bytes) : (old.overwrite new).resize new.length = new := by
  have cut : (new ++ old.drop new.length).take new.length = new := List.take_left
  have filled : new.length - (new ++ old.drop new.length).length = 0 := by
    rw [List.length_append]
    omega
  simp only [overwrite, resize, cut, filled, List.replicate_zero, List.append_nil]

/-- A node after a change of its bytes, which only a regular file has. -/
def Node.changed (user : User) (change : Bytes → Bytes) (node : Node) : Node :=
  match node.content with
  | .file bytes => { node with content := .file (change bytes), mode := modeAfterWrite user node.mode }
  | _ => node

namespace Tree

variable {tree after : Tree} {path : Path} {id other : NodeId} {node : Node} {bytes : Bytes}

/-! ## Nodes -/

/-- Trees with the same nodes, seen from the same place by the same user, are the same. -/
theorem eq_of_node? {tree' : Tree} (here : tree.here = tree'.here) (user : tree.user = tree'.user)
    (nodes : ∀ id, tree.node? id = tree'.node? id) : tree = tree' := by
  obtain ⟨table, _, _⟩ := tree
  obtain ⟨table', _, _⟩ := tree'
  obtain rfl : table = table' := List.ext_getElem? nodes
  cases here
  cases user
  rfl

/-- The node with a number is the one put there, if the number was in use. -/
theorem node?_setNode (h : tree.node? id = some node) (new : Node) :
    (tree.setNode id new).node? id = some new := by
  obtain ⟨inside, -⟩ := List.getElem?_eq_some_iff.mp h
  exact List.getElem?_set_self inside

theorem node?_setNode_of_ne (differ : other ≠ id) (new : Node) :
    (tree.setNode id new).node? other = tree.node? other :=
  List.getElem?_set_ne differ.symm

theorem content?_congr (h : after.node? id = tree.node? id) : after.content? id = tree.content? id :=
  congrArg (Option.map Node.content) h

/-- What is opened is what the path leads to, and a regular file if the path leads to one. -/
theorem content?_of_openFile (hs : tree.stat path = .ok .file) (ho : tree.openFile path = .ok id) :
    tree.content? id = some (.file (tree.contents id)) := by
  obtain ⟨found, bytes, hr, hc⟩ := stat_file_iff.mp hs
  have same := (openFile_ok_iff.mp ho).1
  rw [hr] at same
  cases same
  simp only [contents, hc]

/-! ## Changing the bytes of a file -/

/-- A change either leaves the tree or puts a file with the same face where a file was. These are the two ways in
which writing can go, and what follows is said for both by looking at each. -/
theorem modify_cases (tree : Tree) (id : NodeId) (change : Bytes → Bytes) :
    tree.modify id change = tree ∨
      ∃ node bytes, tree.node? id = some node ∧ node.content = .file bytes ∧
        tree.modify id change = tree.setNode id
          { node with content := .file (change bytes), mode := Node.modeAfterWrite tree.user node.mode } := by
  cases hn : tree.node? id with
  | none => exact .inl (by simp only [modify, hn])
  | some node =>
    cases hc : node.content with
    | file bytes => exact .inr ⟨node, bytes, rfl, hc, by simp only [modify, hn, hc]⟩
    | _ => exact .inl (by simp only [modify, hn, hc])

/-- The file holds the changed bytes. -/
theorem content?_modify (h : tree.content? id = some (.file bytes)) (change : Bytes → Bytes) :
    (tree.modify id change).content? id = some (.file (change bytes)) := by
  obtain ⟨node, hn, hc⟩ := content?_eq_some_iff.mp h
  simp only [modify, hn, hc, content?, node?_setNode hn, Option.map_some]

theorem node?_modify_of_ne (differ : other ≠ id) (change : Bytes → Bytes) :
    (tree.modify id change).node? other = tree.node? other := by
  rcases modify_cases tree id change with unchanged | ⟨node, bytes, -, -, changed⟩
  · rw [unchanged]
  · rw [changed, node?_setNode_of_ne differ]

theorem alike_modify (tree : Tree) (id : NodeId) (change : Bytes → Bytes) :
    Alike tree (tree.modify id change) := by
  rcases modify_cases tree id change with unchanged | ⟨node, bytes, hn, hc, changed⟩
  · rw [unchanged]
    exact .refl tree
  · rw [changed]
    refine ⟨rfl, rfl, fun other => ?_⟩
    by_cases differ : other = id
    · subst differ
      rw [node?_setNode hn, hn, Option.map_some, Option.map_some, Option.some.injEq]
      simp only [Node.face, hc, Node.modeAfterWrite_mod]
    · rw [node?_setNode_of_ne differ]

/-- What a change leaves under the number of the file, if there was anything. -/
theorem node?_modify (tree : Tree) (id : NodeId) (change : Bytes → Bytes) :
    (tree.modify id change).node? id = (tree.node? id).map (Node.changed tree.user change) := by
  cases hn : tree.node? id with
  | none => simp only [modify, hn, Option.map_none]
  | some node =>
    cases hc : node.content with
    | file bytes => simp only [modify, hn, hc, node?_setNode hn, Option.map_some, Node.changed]
    | _ => simp only [modify, hn, hc, Option.map_some, Node.changed]

/-- Two files can be changed in either order. -/
theorem modify_comm (differ : other ≠ id) (change change' : Bytes → Bytes) :
    (tree.modify id change).modify other change' = (tree.modify other change').modify id change := by
  have alike := alike_modify tree id change
  have alike' := alike_modify tree other change'
  have both := alike.trans (alike_modify (tree.modify id change) other change')
  have both' := alike'.trans (alike_modify (tree.modify other change') id change)
  refine eq_of_node? (both.here.trans both'.here.symm) (both.user.trans both'.user.symm) fun k => ?_
  by_cases first : k = id
  · subst first
    rw [node?_modify_of_ne differ.symm, node?_modify, node?_modify, node?_modify_of_ne differ.symm, alike'.user]
  by_cases second : k = other
  · subst second
    rw [node?_modify, node?_modify_of_ne differ, node?_modify_of_ne differ, node?_modify, alike.user]
  rw [node?_modify_of_ne second, node?_modify_of_ne first, node?_modify_of_ne first, node?_modify_of_ne second]

/-! ## Replacing a file -/

/-- **A file that is replaced holds the new bytes alone.** Nothing of the old bytes is left behind them, whichever are
longer: the file is written over from its beginning and then cut to the length of the new bytes. -/
theorem content?_replaceContents (h : tree.content? id = some (.file bytes)) (new : Bytes) :
    (tree.replaceContents id new).content? id = some (.file new) := by
  have written := content?_modify h (Bytes.overwrite · new)
  have cut := content?_modify written (Bytes.resize · new.length)
  rw [Bytes.resize_overwrite] at cut
  exact cut

/-- **Other nodes stay**, their permission bits included. -/
theorem node?_replaceContents_of_ne (differ : other ≠ id) (new : Bytes) :
    (tree.replaceContents id new).node? other = tree.node? other := by
  rw [replaceContents, truncate, node?_modify_of_ne differ, write, node?_modify_of_ne differ]

/-- **A tree looks as before when a file in it has been replaced.** So every path leads where it led, is of the kind
that it was, and is opened or not as before. -/
theorem alike_replaceContents (tree : Tree) (id : NodeId) (new : Bytes) :
    Alike tree (tree.replaceContents id new) :=
  (alike_modify tree id _).trans (alike_modify _ id _)

/-- **Two files can be replaced in either order.** -/
theorem replaceContents_comm (differ : other ≠ id) (new new' : Bytes) :
    (tree.replaceContents id new).replaceContents other new' =
      (tree.replaceContents other new').replaceContents id new := by
  simp only [replaceContents, truncate, write, modify_comm differ]

end Tree
end Relabel
