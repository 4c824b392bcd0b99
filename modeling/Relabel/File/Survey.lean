import Relabel.File.Tree

/-!
# Surveying a tree

`Tree.survey` lists everything below a directory, each thing under its path from there, in the order of the
paths' bytes. The walk down needs a bound, because nothing in the type of a tree keeps directories from
holding each other; a path without repetition is no longer than the table of nodes.
-/

namespace Relabel

/-- What a survey says of a node. -/
inductive Sighting where
  | directory
  /-- A regular file, with its bytes if they may be read. -/
  | file (bytes : Option Bytes)
  | link (target : Path)
  | pipe
  | device
  deriving DecidableEq, Repr

namespace Tree

/-- What a survey by a user says of a node that is an entry of another. -/
def sighting (user : User) (parent node : Node) : Sighting :=
  match node.content with
  | .directory _ _ => .directory
  | .file bytes =>
    .file (if parent.allows user .search && node.allows user .read then some bytes else none)
  | .link target => .link target
  | .pipe => .pipe
  | .device => .device

/-- The entries of a node that a user may list: all of them for a readable directory. -/
def listed (user : User) (node : Node) : List (Name × NodeId) :=
  match node.content with
  | .directory _ entries => if node.allows user .read then entries else []
  | _ => []

/-- Everything below a directory, at most so many levels down; `front` is the path to the directory. -/
def surveyFrom (tree : Tree) (front : Bytes) : Nat → NodeId → List (Path × Sighting)
  | 0, _ => []
  | levels + 1, id =>
    match tree.node? id with
    | none => []
    | some node =>
      (listed tree.user node).flatMap fun (name, child) =>
        match tree.node? child with
        | none => []
        | some below =>
          (⟨front ++ name⟩, sighting tree.user node below) ::
            if node.allows tree.user .search then
              surveyFrom tree (front ++ name ++ [Ascii.slash]) levels child
            else []

/-- Everything below a directory, by path. -/
def survey (tree : Tree) (id : NodeId) : List (Path × Sighting) :=
  (tree.surveyFrom [] tree.nodes.length id).mergeSort fun a b => a.1.le b.1

end Tree
end Relabel
