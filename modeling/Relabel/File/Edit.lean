import Relabel.File.Access

/-!
# Making and removing files

The changes that prepare a tree: regular files, directories, symbolic and hard links, named pipes,
permission bits, removal. New nodes belong to the user and get the usual permission bits less the ones that
everybody but the owner is denied writing with. A removed entry's node stays in the table; it can no longer be
reached by that name.
-/

namespace Relabel
namespace Tree

/-- The directory and the name in it that a path ends in; a slash behind the name is looked past. -/
def parentOf (tree : Tree) (path : Path) : Except IoFault (NodeId × Name) :=
  match refuse? path with
  | some fault => .error fault
  | none =>
    match (path.names.map Path.stepOf).reverse with
    | .down name :: front =>
      match tree.walk true linkLimit (startOf path tree.here) front.reverse with
      | .error error => .error (.system error)
      | .ok id => .ok (id, name)
    | _ => .error (.system .taken)

/-- Changes the entries of a directory that may be changed. -/
def modifyEntries (tree : Tree) (id : NodeId)
    (change : List (Name × NodeId) → List (Name × NodeId)) : Except IoFault Tree :=
  match tree.enter id, tree.node? id with
  | .ok (above, entries), some node =>
    if node.allows tree.user .write then
      .ok (tree.setNode id { node with content := .directory above (change entries) })
    else .error (.system .denied)
  | .error error, _ => .error (.system error)
  | _, none => .error (.system .notFound)

/-- Puts an entry that leads to `id` where a path ends. Only a directory can be put where a slash stands
behind the name. -/
def addEntry (tree : Tree) (path : Path) (id : NodeId) (isDirectory : Bool) : Except IoFault Tree := do
  let (directory, name) ← tree.parentOf path
  if path.endsInSlash && !isDirectory then throw (.system .notFound)
  match tree.enter directory with
  | .error error => .error (.system error)
  | .ok (_, entries) =>
    if entries.any (·.1 == name) then .error (.system .taken)
    else if nameLimit < name.length then .error (.system .nameTooLong)
    else tree.modifyEntries directory (· ++ [(name, id)])

/-- Puts a new node where a path ends. -/
def addNode (tree : Tree) (path : Path) (content : Content) (mode : Nat) : Except IoFault Tree := do
  let added ← tree.addEntry path tree.nodes.length (content.kind = .directory)
  return { added with nodes := added.nodes ++ [⟨content, mode, .owner⟩] }

/-- Makes a directory. -/
def makeDirectory (tree : Tree) (path : Path) : Except IoFault Tree := do
  let (directory, _) ← tree.parentOf path
  tree.addNode path (.directory directory []) 0o755

/-- Makes a symbolic link. -/
def makeLink (tree : Tree) (path target : Path) : Except IoFault Tree :=
  match refuse? target with
  | some fault => .error fault
  | none => tree.addNode path (.link target) 0o777

/-- Makes a named pipe. -/
def makePipe (tree : Tree) (path : Path) : Except IoFault Tree :=
  tree.addNode path .pipe 0o644

/-- Makes another entry for the node that a path leads to, a link at its end not followed. Directories and
devices can have no other entry. -/
def makeHardLink (tree : Tree) (path existing : Path) : Except IoFault Tree := do
  let id ← tree.resolve existing false
  match tree.content? id with
  | some (.directory _ _) | some .device => throw (.system .denied)
  | _ => tree.addEntry path id false

/-- Where a file that does not exist yet is made: links at the end of the path are followed, up to a
number of them. -/
def placeOfNew (tree : Tree) : Nat → Path → Except IoFault Path
  | 0, _ => .error (.system .tooManyLinks)
  | links + 1, path =>
    match tree.resolve path false with
    | .error _ => .ok path
    | .ok id =>
      match tree.target? id with
      | none => .ok path
      | some target =>
        if target.isAbsolute then tree.placeOfNew links target
        else
          let front := (pieces Ascii.slash path.bytes).dropLast.flatMap (· ++ [Ascii.slash])
          tree.placeOfNew links ⟨front ++ target.bytes⟩

/-- Makes a regular file with some bytes, or replaces the bytes of the one that a path leads to. -/
def putFile (tree : Tree) (path : Path) (bytes : Bytes) : Except IoFault Tree :=
  match tree.resolve path true with
  | .ok id =>
    match tree.node? id with
    | some node =>
      if node.allows tree.user .write then .ok ((tree.truncate id 0).write id bytes)
      else .error (.system .denied)
    | none => .error (.system .notFound)
  | .error _ => do
    let place ← tree.placeOfNew (linkLimit + 1) path
    tree.addNode place (.file bytes) 0o644

/-- Sets the permission bits of what a path leads to. -/
def changeMode (tree : Tree) (path : Path) (mode : Nat) : Except IoFault Tree := do
  let id ← tree.resolve path true
  match tree.node? id with
  | some node => return tree.setNode id { node with mode := mode }
  | none => .error (.system .notFound)

/-- Whether everything below a node, at most so many levels down, may be removed: each directory must be
listed, and its entries, if it has any, be taken out. -/
def mayEmpty (tree : Tree) : Nat → NodeId → Bool
  | 0, _ => true
  | levels + 1, id =>
    match tree.node? id with
    | none => true
    | some node =>
      match node.content with
      | .directory _ entries =>
        node.allows tree.user .read &&
          (entries.isEmpty || node.allows tree.user .write && node.allows tree.user .search) &&
          entries.all fun entry => mayEmpty tree levels entry.2
      | _ => true

/-- Removes the entry that a path ends in, with everything below it. A link is not removed by a path with a
slash at its end. -/
def remove (tree : Tree) (path : Path) : Except IoFault Tree := do
  let (directory, name) ← tree.parentOf path
  let id ← tree.resolve path false
  let (_, entries) ← (tree.enter directory).mapError IoFault.system
  if !entries.contains (name, id) then throw (.system .notDirectory)
  if !tree.mayEmpty tree.nodes.length id then throw (.system .denied)
  tree.modifyEntries directory (·.filter (·.1 != name))

/-- Makes a directory below the working directory the working directory. -/
def changeDirectory (tree : Tree) (path : Path) : Except IoFault Tree := do
  let id ← tree.resolve path true
  return { tree with here := id }

end Tree
end Relabel
