import Relabel.Text.Pieces
import Relabel.Text.Utf8

/-!
# Paths

A path is a run of bytes in which `/` separates names. Two readings of it matter here. For people it is
*shown* as text, with a replacement character wherever it is not UTF-8. For the walk through a file tree it
is a list of *steps*: empty names count for nothing, `.` stays, `..` goes up, any other name goes down, and a
slash at the end asks that what was reached be a directory.

`Path.fileName?` is the name a path ends in. It looks through slashes and dots at the end, so `a/b/` and
`a/b/.` both end in `b`; a path that ends in `..`, the root and the empty path end in no name, and neither
does a lone `.`.
-/

namespace Relabel

/-- A path. -/
structure Path where
  bytes : Bytes
  deriving DecidableEq, Repr

/-- A name between the slashes of a path. -/
abbrev Name := Bytes

/-- One step of a walk along a path. -/
inductive Step where
  /-- Stay in this directory. -/
  | stay
  /-- Go to the directory above. -/
  | up
  /-- Go to the entry with the name. -/
  | down (name : Name)
  /-- Ask that what was reached be a directory. -/
  | directory
  deriving DecidableEq, Repr

namespace Path

/-- The name `.`, which means the directory itself. -/
def dotName : Name := [Ascii.dot]

/-- The name `..`, which means the directory above. -/
def dotDotName : Name := [Ascii.dot, Ascii.dot]

/-- The path of a text. -/
def ofString (text : String) : Path := ⟨Utf8.encode text⟩

/-- The path as text for people. -/
def shown (path : Path) : String := Utf8.decodeLossy path.bytes

/-- Whether the path starts at the root. -/
def isAbsolute (path : Path) : Bool := path.bytes.head? == some Ascii.slash

/-- Whether a slash stands at the end of the path. -/
def endsInSlash (path : Path) : Bool := path.bytes.getLast? == some Ascii.slash

/-- The names of the path that count: all but the empty ones. -/
def names (path : Path) : List Name := (pieces Ascii.slash path.bytes).filter (!·.isEmpty)

/-- The step that a name takes. -/
def stepOf (name : Name) : Step :=
  if name = dotName then .stay else if name = dotDotName then .up else .down name

/-- The steps of a walk along the path. -/
def steps (path : Path) : List Step :=
  path.names.map stepOf ++
    if path.endsInSlash then [.directory] else []

/-- The name the path ends in. -/
def fileName? (path : Path) : Option Name :=
  let counted := path.names
  match (counted.reverse.dropWhile (· == dotName)).head? with
  | some name => if name = dotDotName then none else some name
  | none => none

/-- The path of an entry of the directory at a path. -/
def join (path : Path) (name : Name) : Path :=
  if path.endsInSlash then ⟨path.bytes ++ name⟩
  else ⟨path.bytes ++ Ascii.slash :: name⟩

/-- The order of paths by their bytes. -/
def le (p q : Path) : Bool := decide (p.bytes ≤ q.bytes)

end Path
end Relabel
