import Relabel.Failure
import Relabel.File.Access
import Relabel.Json.Layout
import Relabel.Json.Reader
import Relabel.Json.Relabel

/-!
# Revising a file

A file is revised in place: its document is read, the member `sourceName` gets the name `targetName`, and the
document's layout takes the place of the old bytes. `revise` is the part without the file, from old bytes to
new ones; `Tree.reviseFile` puts it between opening the file and writing it.

Nothing is written before everything that can fail has succeeded: the path is looked up and must lead to a
regular file, the file is opened for reading and writing, its bytes must be a document, and the document must
have the member. The file is then overwritten from its start and cut to the new length, so that it holds the
new bytes alone whether they are more or fewer than the old ones.
-/

namespace Relabel

/-- The new bytes of the file at a path that holds `old`. -/
def revise (path : Path) (old : Bytes) : Except Failure Bytes :=
  match Document.read old with
  | .error fault => .error (.invalidJson path fault)
  | .ok document =>
    match document.relabel sourceName targetName with
    | (true, relabelled) => .ok relabelled.layout
    | (false, _) => .error (.missingKey path sourceName)

namespace Tree

/-- Replaces the bytes of an open file. -/
def replaceContents (tree : Tree) (id : NodeId) (new : Bytes) : Tree :=
  (tree.write id new).truncate id new.length

/-- Revises the file that a path leads to: whether that went well, and the tree afterwards. -/
def reviseFile (tree : Tree) (path : Path) : Except Failure Unit × Tree :=
  match tree.stat path with
  | .error fault => (.error (.io path fault), tree)
  | .ok .file =>
    match tree.openFile path with
    | .error fault => (.error (.io path fault), tree)
    | .ok id =>
      match revise path (tree.contents id) with
      | .error failure => (.error failure, tree)
      | .ok new => (.ok (), tree.replaceContents id new)
  | .ok _ => (.error (.notAFile path), tree)

end Tree
end Relabel
