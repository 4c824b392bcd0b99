import Relabel.Failure
import Relabel.File.Access

/-!
# Entries

An entry is one thing to work on: the path that leads to it, the name it is called by, and whether it was a
directory when the entry was made. `Entry.ofPath` makes the entry of a path that somebody gave,
`Tree.entries` those of a directory's immediate children, in the order in which the directory lists them.
Whether a child is a directory is asked through links, so a link to a directory counts as one and a link that
leads nowhere does not.
-/

namespace Relabel

/-- One thing to work on. -/
structure Entry where
  /-- What it is called. -/
  name : String
  /-- Where it is. -/
  path : Path
  /-- Whether it was a directory when the entry was made. -/
  isDirectory : Bool
  deriving DecidableEq, Repr

namespace Entry

/-- What the thing at a path is called: the name the path ends in, or the whole path if it ends in
none. -/
def nameOf (path : Path) : String :=
  match path.fileName? with
  | some name => Utf8.decodeLossy name
  | none => path.shown

/-- The entry of a path. -/
def ofPath (tree : Tree) (path : Path) : Entry := ⟨nameOf path, path, tree.isDirectory path⟩

/-- The order of entries by the bytes of their paths. -/
def le (a b : Entry) : Bool := a.path.le b.path

end Entry

/-- The failure to read the entries of a directory that is one. -/
def Failure.unlisted (path : Path) : IoFault → Failure
  | .system error => .io path (.unreadableDirectory path.shown error)
  | fault => .io path fault

/-- The entries of the directory at a path. -/
def Tree.entries (tree : Tree) (path : Path) : Except Failure (List Entry) :=
  match tree.stat path with
  | .error fault => .error (.io path fault)
  | .ok .directory =>
    match tree.entryNames path with
    | .error fault => .error (.unlisted path fault)
    | .ok names => .ok (names.map fun name => Entry.ofPath tree (path.join name))
  | .ok _ => .error (.notADirectory path)

end Relabel
