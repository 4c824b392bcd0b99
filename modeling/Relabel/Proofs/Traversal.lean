import Relabel.Proofs.Listing
import Relabel.Proofs.Skipping

/-!
# Listing by traversal

A directory is listed by a traversal of everything below a path, kept to one level. How such a traversal goes about it
is not looked at here; `Traversal` says what it is documented to find. At depth 0 it finds the path itself, behind
each directory at a depth it finds what the directory holds one level deeper, and what lies too deep or not deep enough
is not handed out. A link is a find like any other and nothing is looked for behind it, unless it is the path that the
traversal starts from. A directory that cannot be opened is a fault where its contents would have been, so behind the
greatest depth that is no fault at all.

**Listing is exact and one level deep, by every such traversal** (`Traversal.entries_exact`). All of them list what
`Tree.entries` lists (`Traversal.entries_eq`), for at the one depth that is asked for there are the directory's
children, each once and in order (`Traversal.start_single`). `Traversal.depthFirst` is one that takes directories as
they come.
-/

namespace Relabel

/-! ## Traversals -/

/-- The entries of the directory that a path leads to, by name and node, in the order in which they are listed. -/
def Tree.children (tree : Tree) (path : Path) : Except IoFault (List (Name × NodeId)) :=
  match tree.resolve path true with
  | .error fault => .error fault
  | .ok id =>
    match tree.node? id with
    | some node =>
      match node.content with
      | .directory _ entries => if node.allows tree.user .read then .ok entries else .error (.system .denied)
      | _ => .error (.system .notDirectory)
    | none => .error (.system .notFound)

/-- Whether a node is a directory; a link to one is not. -/
def Tree.holdsDirectory (tree : Tree) (id : NodeId) : Bool :=
  match tree.content? id with
  | some (.directory _ _) => true
  | _ => false

/-- The depths that a traversal hands out. -/
structure Depths where
  /-- The least of them. -/
  least : Nat
  /-- The greatest of them. -/
  greatest : Nat
  ordered : least ≤ greatest

/-- The depth of a directory's children alone. -/
def Depths.single : Depths := ⟨1, 1, Nat.le_refl 1⟩

/-- What a traversal comes to: a path, or a path where it could not go on, and why. -/
abbrev Find := Except (Path × IoFault) Path

/-- A path, if its depth is to be handed out. -/
def Depths.found (depths : Depths) (depth : Nat) (path : Path) : List Find :=
  if depths.least ≤ depth then [.ok path] else []

/-- A traversal as it is documented. -/
structure Traversal where
  /-- What is found from a path on. -/
  start : Depths → Tree → Path → List Find
  /-- What is found from the contents of a directory on, the directory being at a path and its contents at a depth. -/
  below : Depths → Nat → Tree → Path → List Find
  /-- A link is followed to see what the path leads to. Nothing is said of a path that leads nowhere. -/
  root : ∀ {depths tree path kind}, tree.stat path = .ok kind →
    start depths tree path = depths.found 0 path ++ if kind = .directory then below depths 1 tree path else []
  tooDeep : ∀ {depths depth tree path}, depths.greatest < depth → below depths depth tree path = []
  unreadable : ∀ {depths depth tree path fault}, depth ≤ depths.greatest → tree.children path = .error fault →
    below depths depth tree path = [.error (path, fault)]
  contents : ∀ {depths depth tree path children}, depth ≤ depths.greatest → tree.children path = .ok children →
    below depths depth tree path = children.flatMap fun child =>
      depths.found depth (path.join child.1) ++
        if tree.holdsDirectory child.2 then below depths (depth + 1) tree (path.join child.1) else []

/-- The failure to list a directory because a traversal could not go on. -/
def Failure.untraversed (directory : Path) : Path × IoFault → Failure
  | (path, .system error) => .io directory (.unreadableDirectory path.shown error)
  | (_, fault) => .io directory fault

/-- Makes entries of what a traversal comes to, one after another up to the first fault. -/
def Entry.ofFinds (tree : Tree) (directory : Path) : List Find → Except Failure (List Entry)
  | [] => .ok []
  | .error fault :: _ => .error (.untraversed directory fault)
  | .ok path :: rest => (ofFinds tree directory rest).map (Entry.ofPath tree path :: ·)

/-- The entries of the directory at a path, by a traversal. -/
def Traversal.entries (traversal : Traversal) (tree : Tree) (path : Path) : Except Failure (List Entry) :=
  match tree.stat path with
  | .error fault => .error (.io path fault)
  | .ok .directory => Entry.ofFinds tree path (traversal.start .single tree path)
  | .ok _ => .error (.notADirectory path)

/-! ## One that takes directories as they come -/

/-- What is found from the contents of a directory on, so many levels down. -/
def Tree.finds (tree : Tree) (depths : Depths) : Nat → Nat → Path → List Find
  | 0, _, _ => []
  | levels + 1, depth, path =>
    match tree.children path with
    | .error fault => [.error (path, fault)]
    | .ok children => children.flatMap fun child =>
      depths.found depth (path.join child.1) ++
        if tree.holdsDirectory child.2 then finds tree depths levels (depth + 1) (path.join child.1) else []

/-- The traversal that goes into a directory as soon as it has come to it. -/
def Traversal.depthFirst : Traversal where
  start depths tree path :=
    match tree.stat path with
    | .error fault => [.error (path, fault)]
    | .ok kind =>
      depths.found 0 path ++ if kind = .directory then tree.finds depths depths.greatest 1 path else []
  below depths depth tree path := tree.finds depths (depths.greatest + 1 - depth) depth path
  root h := by simp only [h, Nat.add_sub_cancel]
  tooDeep h := by rw [Nat.sub_eq_zero_of_le h]; rfl
  unreadable h hc := by rw [Nat.succ_sub h, Tree.finds, hc]
  contents h hc := by
    rw [Nat.succ_sub h, Tree.finds, hc]
    simp only [Nat.add_sub_add_right]

/-! ## One level -/

namespace Tree

variable {tree : Tree} {path : Path} {children : List (Name × NodeId)}

/-- A directory can be read exactly if the path leads to a directory that the user may read, and its children are
those that are listed there. -/
theorem children_ok_iff :
    tree.children path = .ok children ↔
      ∃ id node above, tree.resolve path true = .ok id ∧ tree.node? id = some node ∧
        node.content = .directory above children ∧ node.allows tree.user .read = true := by
  cases hr : tree.resolve path true with
  | error fault => simp [Tree.children, hr]
  | ok id =>
    cases hn : tree.node? id with
    | none => simp [Tree.children, hr, hn]
    | some node =>
      cases hc : node.content with
      | directory above entries =>
        cases mayRead : node.allows tree.user .read <;> simp [Tree.children, hr, hn, hc, mayRead]
      | file | link | pipe | device => simp [Tree.children, hr, hn, hc]

theorem entryNames_eq : tree.entryNames path = (tree.children path).map (List.map Prod.fst) := by
  cases hr : tree.resolve path true with
  | error fault => simp [entryNames, Tree.children, hr, Except.map]
  | ok id =>
    cases hn : tree.node? id with
    | none => simp [entryNames, Tree.children, hr, hn, Except.map]
    | some node =>
      cases hc : node.content with
      | directory above children =>
        cases mayRead : node.allows tree.user .read <;>
          simp [entryNames, Tree.children, hr, hn, hc, mayRead, Except.map]
      | file | link | pipe | device => simp [entryNames, Tree.children, hr, hn, hc, Except.map]

end Tree

theorem Path.join_injective (path : Path) : Function.Injective path.join := by
  intro name name' same
  unfold join at same
  split at same
  · exact List.append_cancel_left (Path.mk.inj same)
  · exact (List.cons.inj (List.append_cancel_left (Path.mk.inj same))).2

theorem Entry.ofFinds_map_ok (tree : Tree) (directory : Path) (paths : List Path) :
    ofFinds tree directory (paths.map .ok) = .ok (paths.map (ofPath tree)) := by
  induction paths with
  | nil => rfl
  | cons path rest ih => rw [List.map_cons, ofFinds, ih]; rfl

namespace Traversal

variable (traversal : Traversal) (tree : Tree) (path : Path)

/-- **At the one depth asked for there are the children of the directory**, or the fault to open it. What a traversal
yields at other depths, above and below, is cut off by the two bounds on the depth. -/
theorem start_single (directory : tree.stat path = .ok .directory) :
    traversal.start .single tree path =
      match tree.children path with
      | .error fault => [.error (path, fault)]
      | .ok children => (children.map fun child => path.join child.1).map .ok := by
  have shallow : Depths.single.found 0 path = [] := rfl
  rw [traversal.root directory, shallow, List.nil_append, if_pos rfl]
  cases hc : tree.children path with
  | error fault => exact traversal.unreadable (Nat.le_refl 1) hc
  | ok children =>
    -- Whether a child is a directory or not, and whether it can be opened, what it holds lies too deep.
    have deeper (child : Name × NodeId) :
        (if tree.holdsDirectory child.2 then traversal.below .single (1 + 1) tree (path.join child.1) else []) =
          [] := by
      rw [traversal.tooDeep (Nat.lt_succ_self 1)]
      exact ite_self []
    rw [traversal.contents (Nat.le_refl 1) hc]
    simp only [deeper, List.append_nil, List.map_map]
    exact List.map_eq_flatMap.symm

/-- **All traversals list the same**, whichever satisfies the laws: what is between the bounds is settled by them. -/
theorem entries_eq : traversal.entries tree path = tree.entries path := by
  unfold Traversal.entries Tree.entries
  cases hs : tree.stat path with
  | error fault => rfl
  | ok kind =>
    cases kind with
    | file | other => rfl
    | directory =>
      dsimp only
      rw [traversal.start_single tree path hs, Tree.entryNames_eq]
      cases tree.children path with
      | error fault => cases fault <;> rfl
      | ok children =>
        show Entry.ofFinds tree path _ = .ok ((children.map Prod.fst).map _)
        rw [Entry.ofFinds_map_ok, List.map_map, List.map_map]
        rfl

/-- A path is said to be no directory's exactly if it leads to something else, and then it is this path of which it is
said. -/
theorem entries_notADirectory_iff (other : Path) :
    traversal.entries tree path = .error (.notADirectory other) ↔
      other = path ∧ ∃ id content, tree.resolve path true = .ok id ∧ tree.content? id = some content ∧
        content.kind ≠ .directory := by
  have leads : (∃ kind, tree.stat path = .ok kind ∧ kind ≠ .directory) ↔
      ∃ id content, tree.resolve path true = .ok id ∧ tree.content? id = some content ∧
        content.kind ≠ .directory := by
    constructor
    · rintro ⟨kind, hs, notDirectory⟩
      obtain ⟨id, content, hr, hc, rfl⟩ := Tree.stat_ok_iff.mp hs
      exact ⟨id, content, hr, hc, notDirectory⟩
    · rintro ⟨id, content, hr, hc, notDirectory⟩
      exact ⟨_, Tree.stat_ok_iff.mpr ⟨id, content, hr, hc, rfl⟩, notDirectory⟩
  rw [entries_eq, ← leads]
  unfold Tree.entries
  cases hs : tree.stat path with
  | error fault => simp
  | ok kind =>
    cases kind with
    | file | other => simp [eq_comm]
    | directory =>
      cases tree.entryNames path with
      | error fault => cases fault <;> simp [Failure.unlisted]
      | ok names => simp

variable {path} {entries : List Entry}

/-- A directory that is listed can be read, and its entries are its children. -/
theorem entries_ok_iff :
    traversal.entries tree path = .ok entries ↔
      ∃ children, tree.children path = .ok children ∧
        entries = children.map fun child => Entry.ofPath tree (path.join child.1) := by
  rw [entries_eq, Tree.entries_ok_iff, Tree.entryNames_eq]
  cases tree.children path with
  | error fault => simp [Except.map]
  | ok children => simp [Except.map, Function.comp_def]

variable (path)

/-- **Listing is exact and one level deep.** A directory is listed exactly if a path leads to it and the user may read
it, and that a path is no directory's is said exactly if it leads to something else. What is listed are the directory's
children in order, each at the path of the directory joined with its name, and so one name behind it; and each counts
as a directory if its path leads to one. By every traversal it is the same list. -/
theorem entries_exact :
    ((∃ entries, traversal.entries tree path = .ok entries) ↔
        ∃ id node above children, tree.resolve path true = .ok id ∧ tree.node? id = some node ∧
          node.content = .directory above children ∧ node.allows tree.user .read = true) ∧
      (∀ other, traversal.entries tree path = .error (.notADirectory other) ↔
        other = path ∧ ∃ id content, tree.resolve path true = .ok id ∧ tree.content? id = some content ∧
          content.kind ≠ .directory) ∧
      (∀ entries, traversal.entries tree path = .ok entries →
        ∃ id above children, tree.resolve path true = .ok id ∧
          tree.content? id = some (.directory above children) ∧
          entries.map (·.path) = children.map (fun child => path.join child.1) ∧
          ((children.map Prod.fst).Nodup → (entries.map (·.path)).Nodup) ∧
          ((∀ child ∈ children, Path.IsName child.1) → ∀ entry ∈ entries, ∃ child ∈ children,
            entry.path.names = path.names ++ [child.1]) ∧
          ∀ entry ∈ entries, (entry.isDirectory = true ↔ tree.stat entry.path = .ok .directory)) ∧
      traversal.entries tree path = tree.entries path := by
  refine ⟨?_, traversal.entries_notADirectory_iff tree path, fun entries listed => ?_, traversal.entries_eq tree path⟩
  · constructor
    · rintro ⟨entries, listed⟩
      obtain ⟨children, hc, -⟩ := (traversal.entries_ok_iff tree).mp listed
      obtain ⟨id, node, above, granted⟩ := Tree.children_ok_iff.mp hc
      exact ⟨id, node, above, children, granted⟩
    · rintro ⟨id, node, above, children, granted⟩
      have hc := Tree.children_ok_iff.mpr ⟨id, node, above, granted⟩
      exact ⟨_, (traversal.entries_ok_iff tree).mpr ⟨children, hc, rfl⟩⟩
  · obtain ⟨children, hc, rfl⟩ := (traversal.entries_ok_iff tree).mp listed
    obtain ⟨id, node, above, hr, hn, directory, -⟩ := Tree.children_ok_iff.mp hc
    have paths : (children.map fun child => Entry.ofPath tree (path.join child.1)).map (·.path) =
        (children.map Prod.fst).map path.join := by
      rw [List.map_map, List.map_map]
      rfl
    refine ⟨id, above, children, hr, Tree.content?_eq_some_iff.mpr ⟨node, hn, directory⟩, ?_, fun distinct => ?_,
      fun proper entry there => ?_, fun entry there => ?_⟩
    · rw [paths, List.map_map]
      rfl
    · rw [paths]
      exact distinct.map path.join_injective
    · obtain ⟨child, hchild, rfl⟩ := List.mem_map.mp there
      exact ⟨child, hchild, Path.names_join path (proper child hchild)⟩
    · obtain ⟨child, -, rfl⟩ := List.mem_map.mp there
      exact Tree.isDirectory_iff

/-- A directory that a link leads to, with a pipe, a link to nowhere, a link to itself, a directory that may not be
read, a link to a directory and a file. -/
def variedTree : Tree where
  nodes :=
    [⟨.directory 0 [(Ascii.bytes "d", 1), (Ascii.bytes "l", 2), (Ascii.bytes "e", 9)], 0o755, .owner⟩,
      ⟨.directory 0
        [(Ascii.bytes "pipe", 3), (Ascii.bytes "gone", 4), (Ascii.bytes "loop", 5), (Ascii.bytes "shut", 6),
          (Ascii.bytes "to", 7), (Ascii.bytes "file", 8)], 0o755, .owner⟩,
      ⟨.link (.ofString "d"), 0o777, .owner⟩, ⟨.pipe, 0o644, .owner⟩, ⟨.link (.ofString "nowhere"), 0o777, .owner⟩,
      ⟨.link (.ofString "loop"), 0o777, .owner⟩, ⟨.directory 1 [(Ascii.bytes "deep", 8)], 0o000, .owner⟩,
      ⟨.link (.ofString "../e"), 0o777, .owner⟩, ⟨.file [], 0o644, .owner⟩, ⟨.directory 0 [], 0o755, .owner⟩]
  here := 0
  user := .ordinary

/-- The directory that may not be read is an entry like the others, and a fault only to those who look one level
deeper. -/
theorem entries_exact_mixed :
    let path := Path.ofString "l"
    let kinds := [("pipe", false), ("gone", false), ("loop", false), ("shut", true), ("to", true), ("file", false)]
    let entries := kinds.map fun (name, isDirectory) => (⟨name, .ofString ("l/" ++ name), isDirectory⟩ : Entry)
    depthFirst.entries variedTree path = .ok entries ∧
      depthFirst.start ⟨2, 2, Nat.le_refl 2⟩ variedTree path = [.error (.ofString "l/shut", .system .denied)] ∧
      (∀ entry ∈ entries, (entry.isDirectory = true ↔ variedTree.stat entry.path = .ok .directory)) ∧
      variedTree.entries path = .ok entries := by
  intro path kinds entries
  have listed : depthFirst.entries variedTree path = .ok entries := by decide +kernel
  obtain ⟨-, -, exact, same⟩ := depthFirst.entries_exact variedTree path
  obtain ⟨id, above, children, -, -, -, -, -, asked⟩ := exact entries listed
  exact ⟨listed, by decide +kernel, asked, same.symm.trans listed⟩

end Traversal
end Relabel
