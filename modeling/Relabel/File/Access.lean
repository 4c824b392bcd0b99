import Relabel.File.Walk

/-!
# Looking into a tree and writing files

These are the requests that the program makes of a file tree: what kind of thing a path leads to, the
entries of a directory, and a regular file opened for reading and writing. An open file is the number of its
node. Writing puts bytes over the old ones from the start of the file and leaves what lies beyond; cutting
sets the length. Neither changes the kind of a node, the entries of a directory or the permission bits of the
three octal digits.
-/

namespace Relabel

/-- The bytes of a file after `new` has been written over them from the start. -/
def Bytes.overwrite (old new : Bytes) : Bytes := new ++ old.drop new.length

/-- The bytes of a file whose length has been set: cut off, or filled up with zeros. -/
def Bytes.resize (old : Bytes) (length : Nat) : Bytes :=
  old.take length ++ List.replicate (length - old.length) 0

namespace Tree

/-! ## Looking -/

/-- The kind of what a path leads to, links followed. -/
def stat (tree : Tree) (path : Path) : Except IoFault FileKind :=
  match tree.resolve path true with
  | .error fault => .error fault
  | .ok id =>
    match tree.content? id with
    | some content => .ok content.kind
    | none => .error (.system .notFound)

/-- Whether a path leads to a directory, links followed; not if it leads nowhere. -/
def isDirectory (tree : Tree) (path : Path) : Bool :=
  match tree.stat path with
  | .ok .directory => true
  | _ => false

/-- The names of the entries of the directory that a path leads to, in the order in which they are
listed. -/
def entryNames (tree : Tree) (path : Path) : Except IoFault (List Name) :=
  match tree.resolve path true with
  | .error fault => .error fault
  | .ok id =>
    match tree.node? id with
    | some node =>
      match node.content with
      | .directory _ entries =>
        if node.allows tree.user .read then .ok (entries.map Prod.fst)
        else .error (.system .denied)
      | _ => .error (.system .notDirectory)
    | none => .error (.system .notFound)

/-! ## Open files -/

/-- Opens what a path leads to for reading and writing. -/
def openFile (tree : Tree) (path : Path) : Except IoFault NodeId :=
  match tree.resolve path true with
  | .error fault => .error fault
  | .ok id =>
    match tree.node? id with
    | some node =>
      match node.content with
      | .directory _ _ => .error (.system .isDirectory)
      | _ =>
        if node.allows tree.user .read && node.allows tree.user .write then .ok id
        else .error (.system .denied)
    | none => .error (.system .notFound)

/-- The bytes of an open file. -/
def contents (tree : Tree) (id : NodeId) : Bytes :=
  match tree.content? id with
  | some (.file bytes) => bytes
  | _ => []

/-- Changes the bytes of an open file. -/
def modify (tree : Tree) (id : NodeId) (change : Bytes → Bytes) : Tree :=
  match tree.node? id with
  | some node =>
    match node.content with
    | .file bytes =>
      tree.setNode id
        { node with content := .file (change bytes), mode := Node.modeAfterWrite tree.user node.mode }
    | _ => tree
  | none => tree

/-- Writes bytes over an open file from its start. -/
def write (tree : Tree) (id : NodeId) (bytes : Bytes) : Tree :=
  tree.modify id (Bytes.overwrite · bytes)

/-- Sets the length of an open file. -/
def truncate (tree : Tree) (id : NodeId) (length : Nat) : Tree :=
  tree.modify id (Bytes.resize · length)

/-- The bytes of the regular file that a path leads to, if it may be read. -/
def bytesAt? (tree : Tree) (path : Path) : Option Bytes :=
  match tree.resolve path true with
  | .error _ => none
  | .ok id =>
    match tree.node? id with
    | some node =>
      match node.content with
      | .file bytes => if node.allows tree.user .read then some bytes else none
      | _ => none
    | none => none

/-- The permission bits of what a path leads to. -/
def modeOf? (tree : Tree) (path : Path) : Option Nat :=
  match tree.resolve path true with
  | .error _ => none
  | .ok id => (tree.node? id).map Node.mode

end Tree
end Relabel
