import Relabel.File.Access

/-!
# Trees that look alike

A path leads through directories and links; what the files on the way hold is not looked at. `Tree.Alike`
says that two trees are the same but for the bytes of regular files and the bits above the nine permission
bits, and every question asked of a path has the same answer in both: where it leads (`Alike.resolve`), what
kind of thing is there (`Alike.stat`) and whether it can be opened (`Alike.openFile`).

A walk asks three things of a node: what can be entered (`enter`), whether it is a link (`target?`) and
whether it is a directory. Each is answered from `Node.face`, the part of a node that trees which look alike
share. The induction over the steps is that of `walkPlain`, the one over the links that of `walk`.
-/

namespace Relabel

/-- What everybody sees of a node: its kind, its entries or target, its permission bits and whose it is. The
bytes of a file are not part of it, and neither are the set-id and sticky bits. -/
def Node.face (node : Node) : Node where
  content := match node.content with
    | .file _ => .file []
    | other => other
  mode := node.mode % 512
  standing := node.standing

/-- The three digits are below the bits that a face does not show. -/
theorem Standing.digit_mod (standing : Standing) (mode : Nat) : standing.digit (mode % 512) = standing.digit mode := by
  cases standing <;> simp only [digit] <;> omega

/-- **Rights are seen.** Whoever looks at a face sees what the user may do: rights depend on the standing of the user
and on one of the three digits, and a face shows both. -/
theorem Node.allows_face (node : Node) (user : User) (right : Right) :
    node.face.allows user right = node.allows user right := by
  cases user with
  | privileged => rfl
  | ordinary => rw [allows, allows, face, Standing.digit_mod]

/-- A write leaves the permission bits as they are. Of the bits above them it may take away those by which a program
runs as its owner or its group. -/
theorem Node.modeAfterWrite_mod (user : User) (mode : Nat) : modeAfterWrite user mode % 512 = mode % 512 := by
  cases user with
  | privileged => rfl
  | ordinary =>
    have setUser : ∀ m, (if m / 2048 % 2 = 1 then m - 2048 else m) % 512 = m % 512 := by
      intro m
      split <;> omega
    have setGroup : ∀ m, (if m / 1024 % 2 = 1 && m / 8 % 2 = 1 then m - 1024 else m) % 512 = m % 512 := by
      intro m
      simp only [Bool.and_eq_true, decide_eq_true_eq]
      split <;> omega
    rw [modeAfterWrite, setGroup, setUser]

namespace Tree

/-- Trees that are the same but for the bytes of files and the bits above the permission bits. -/
structure Alike (tree tree' : Tree) : Prop where
  here : tree'.here = tree.here
  user : tree'.user = tree.user
  /-- Every node has the same face. -/
  face : ∀ id, (tree'.node? id).map Node.face = (tree.node? id).map Node.face

namespace Alike

theorem refl (tree : Tree) : Alike tree tree := ⟨rfl, rfl, fun _ => rfl⟩

theorem trans {tree tree' tree'' : Tree} (h : Alike tree tree') (h' : Alike tree' tree'') :
    Alike tree tree'' :=
  ⟨h'.here.trans h.here, h'.user.trans h.user, fun id => (h'.face id).trans (h.face id)⟩

variable {tree tree' : Tree}

/-- **What two trees that look alike have under a number**: nothing in both, or nodes with the same rights
that are both regular files or are the same otherwise. -/
theorem cases_node (h : Alike tree tree') (id : NodeId) :
    (tree.node? id = none ∧ tree'.node? id = none) ∨
      ∃ node node', tree.node? id = some node ∧ tree'.node? id = some node' ∧
        (∀ right, node'.allows tree'.user right = node.allows tree.user right) ∧
        (node'.content = node.content ∨
          ∃ bytes bytes', node.content = .file bytes ∧ node'.content = .file bytes') := by
  have same := h.face id
  cases hn : tree.node? id with
  | none =>
    rw [hn, Option.map_none, Option.map_eq_none_iff] at same
    exact .inl ⟨rfl, same⟩
  | some node =>
    rw [hn, Option.map_some, Option.map_eq_some_iff] at same
    obtain ⟨node', hn', faces⟩ := same
    refine .inr ⟨node, node', rfl, hn', fun right => ?_, ?_⟩
    · rw [← Node.allows_face node', ← Node.allows_face node, faces, h.user]
    · -- A face tells files from everything else, and of everything else it tells all.
      have contents := congrArg Node.content faces
      simp only [Node.face] at contents
      split at contents
      · next bytes' hb' =>
        split at contents
        · next bytes hb => exact .inr ⟨bytes, bytes', hb, hb'⟩
        · next notFile => exact absurd contents.symm (notFile [])
      · next notFile' =>
        split at contents
        · exact absurd contents (notFile' [])
        · exact .inl contents

/-! ## Nodes -/

theorem enter (h : Alike tree tree') (id : NodeId) : tree'.enter id = tree.enter id := by
  rcases h.cases_node id with ⟨hn, hn'⟩ | ⟨node, node', hn, hn', rights, same | ⟨_, _, hb, hb'⟩⟩
  · simp only [Tree.enter, hn, hn']
  · simp only [Tree.enter, hn, hn', same, rights]
  · simp only [Tree.enter, hn, hn', hb, hb']

theorem target? (h : Alike tree tree') (id : NodeId) : tree'.target? id = tree.target? id := by
  rcases h.cases_node id with ⟨hn, hn'⟩ | ⟨node, node', hn, hn', -, same | ⟨_, _, hb, hb'⟩⟩
  · simp only [Tree.target?, content?, hn, hn']
  · simp only [Tree.target?, content?, hn, hn', same, Option.map_some]
  · simp only [Tree.target?, content?, hn, hn', hb, hb', Option.map_some]

/-! ## Walks -/

/-- Steps lead to the same place, if links that are handed on do. -/
theorem walkPlain (h : Alike tree tree') {last : Bool}
    {follow follow' : NodeId → Path → List Step → Except SystemError NodeId}
    (same : ∀ directory target rest, follow' directory target rest = follow directory target rest)
    (steps : List Step) (at_ : NodeId) :
    tree'.walkPlain last follow' at_ steps = tree.walkPlain last follow at_ steps := by
  induction steps generalizing at_ with
  | nil => rfl
  | cons step rest ih =>
    cases step with
    | directory =>
      simp only [Tree.walkPlain]
      rcases h.cases_node at_ with ⟨hn, hn'⟩ | ⟨node, node', hn, hn', -, same | ⟨_, _, hb, hb'⟩⟩
      · simp only [content?, hn, hn', Option.map_none]
      · simp only [content?, hn, hn', same, Option.map_some, ih]
      · simp only [content?, hn, hn', hb, hb', Option.map_some]
    | stay => simp only [Tree.walkPlain, h.enter, ih]
    | up => simp only [Tree.walkPlain, h.enter, ih]
    | down name => simp only [Tree.walkPlain, h.enter, h.target?, same, ih]

/-- Walks lead to the same place. -/
theorem walk (h : Alike tree tree') {last : Bool} (links : Nat) (at_ : NodeId) (steps : List Step) :
    tree'.walk last links at_ steps = tree.walk last links at_ steps := by
  induction links generalizing at_ steps with
  | zero => exact h.walkPlain (fun _ _ _ => rfl) steps at_
  | succ links ih =>
    -- What is handed on at a link is a walk with one link fewer.
    exact h.walkPlain (fun directory target rest => ih (startOf target directory) (target.steps ++ rest))
      steps at_

/-- **A path leads to the same node.** Walking looks at directories, links and rights, all of which show on the face
of a node, and at the bytes of a file never. -/
theorem resolve (h : Alike tree tree') (path : Path) (last : Bool) :
    tree'.resolve path last = tree.resolve path last := by
  simp only [Tree.resolve, h.here, h.walk]

/-! ## Requests -/

theorem stat (h : Alike tree tree') (path : Path) : tree'.stat path = tree.stat path := by
  simp only [Tree.stat, h.resolve]
  split
  · rfl
  · next id _ =>
    rcases h.cases_node id with ⟨hn, hn'⟩ | ⟨node, node', hn, hn', -, same | ⟨_, _, hb, hb'⟩⟩
    · simp only [content?, hn, hn']
    · simp only [content?, hn, hn', same, Option.map_some]
    · simp only [content?, hn, hn', hb, hb', Option.map_some, Content.kind]

theorem openFile (h : Alike tree tree') (path : Path) : tree'.openFile path = tree.openFile path := by
  simp only [Tree.openFile, h.resolve]
  split
  · rfl
  · next id _ =>
    rcases h.cases_node id with ⟨hn, hn'⟩ | ⟨node, node', hn, hn', rights, same | ⟨_, _, hb, hb'⟩⟩
    · simp only [hn, hn']
    · simp only [hn, hn', same, rights]
    · simp only [hn, hn', hb, hb', rights]

end Alike
end Tree
end Relabel
