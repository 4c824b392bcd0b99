import Relabel.File.Path

/-!
# File trees

A file tree is a table of nodes. A node is a regular file with its bytes, a directory with its entries, a
symbolic link with its target, a named pipe or a device; it has permission bits, and the ordinary user owns it,
is of its group, or is neither. A directory's entries lead to nodes by their number in the table, so that two entries
that lead to one number are two hard links to one node. A directory also knows the directory above it.

`Tree` is such a table with the point of view of a run: the working directory and the user. The privileged
user may do anything. For the ordinary user the permission bits count: those of the owner on a node the user
owns, those of the group on another node whose group the user is of, and those of everybody else on any other. Only
one of the three digits counts, also where another one would grant more.

The root is always node 0.
-/

namespace Relabel

/-- The number of a node in the table. -/
abbrev NodeId := Nat

/-- What a node is. -/
inductive Content where
  | file (bytes : Bytes)
  /-- A directory: the one above it, and its entries in the order in which they are listed. -/
  | directory (above : NodeId) (entries : List (Name × NodeId))
  | link (target : Path)
  | pipe
  | device
  deriving DecidableEq, Repr

/-- What a user may want to do with a node. -/
inductive Right where
  /-- Read a file, or list a directory. -/
  | read
  /-- Write a file, or change the entries of a directory. -/
  | write
  /-- Go through a directory to one of its entries. -/
  | search
  deriving DecidableEq, Repr

/-- The weight of a right within an octal digit of the permission bits. -/
def Right.weight : Right → Nat
  | .read => 4
  | .write => 2
  | .search => 1

/-- Who acts. -/
inductive User where
  /-- The user whom permission bits do not bind. -/
  | privileged
  /-- A user whom they bind. -/
  | ordinary
  deriving DecidableEq, Repr

/-- What the ordinary user is to a node. -/
inductive Standing where
  | owner
  /-- Not its owner, but of its group. -/
  | group
  /-- Neither. -/
  | other
  deriving DecidableEq, Repr

/-- The digit of permission bits that counts for a user, out of those for the owner, the group and everybody else. -/
def Standing.digit (standing : Standing) (mode : Nat) : Nat :=
  match standing with
  | .owner => mode / 64 % 8
  | .group => mode / 8 % 8
  | .other => mode % 8

/-- A node of a tree. -/
structure Node where
  /-- What the node is. -/
  content : Content
  /-- The permission bits: three octal digits for the owner, the group and everybody else, and the set-id
  and sticky bits above them. -/
  mode : Nat
  /-- What the ordinary user is to the node. -/
  standing : Standing
  deriving DecidableEq, Repr

namespace Node

/-- Whether a user has a right on a node. -/
def allows (node : Node) (user : User) (right : Right) : Bool :=
  match user with
  | .privileged => true
  | .ordinary => node.standing.digit node.mode / right.weight % 2 == 1

/-- The permission bits after the ordinary user has written to a file: a write takes away the set-user
bit, and the set-group bit where the group may execute. -/
def modeAfterWrite (user : User) (mode : Nat) : Nat :=
  match user with
  | .privileged => mode
  | .ordinary =>
    let mode := if mode / 2048 % 2 = 1 then mode - 2048 else mode
    if mode / 1024 % 2 = 1 && mode / 8 % 2 = 1 then mode - 1024 else mode

end Node

/-- A table of nodes, seen from a working directory by a user. -/
structure Tree where
  /-- The nodes, by number. -/
  nodes : List Node
  here : NodeId
  /-- Who acts. -/
  user : User
  deriving DecidableEq, Repr

/-- What a name turns out to be once links have been followed. -/
inductive FileKind where
  | file
  | directory
  /-- A named pipe or a device. -/
  | other
  deriving DecidableEq, Repr

/-- The kind of a node. A symbolic link is a kind of its own only to those who do not follow it; it counts
as `other`. -/
def Content.kind : Content → FileKind
  | .file _ => .file
  | .directory _ _ => .directory
  | .link _ => .other
  | .pipe => .other
  | .device => .other

namespace Tree

/-- The node with a number. -/
def node? (tree : Tree) (id : NodeId) : Option Node := tree.nodes[id]?

/-- What the node with a number is. -/
def content? (tree : Tree) (id : NodeId) : Option Content := (tree.node? id).map Node.content

/-- The tree with another node under a number. -/
def setNode (tree : Tree) (id : NodeId) (node : Node) : Tree :=
  { tree with nodes := tree.nodes.set id node }

/-- The number of the root. -/
def root : NodeId := 0

/-- The tree of a fresh run: an empty working directory that the user owns, below a directory of somebody
else's, below the root, which also holds `/dev/null`. -/
def fresh (user : User) : Tree where
  nodes :=
    [⟨.directory 0 [(Ascii.bytes "dev", 3)], 0o755, .other⟩,
      ⟨.directory 0 [], 0o755, .other⟩,
      ⟨.directory 1 [], 0o755, .owner⟩,
      ⟨.directory 0 [(Ascii.bytes "null", 4)], 0o755, .other⟩,
      ⟨.device, 0o666, .other⟩]
  here := 2
  user := user

end Tree
end Relabel
