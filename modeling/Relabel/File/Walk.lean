import Relabel.File.IoFault
import Relabel.File.Tree

/-!
# Walking along a path

`Tree.resolve` finds the node that a path leads to. The walk starts at the root or in the working directory
and takes the path's steps one by one. Any step out of a directory, `.` included, needs the right to search
it. A symbolic link in the middle is always followed: its target's steps are put before the steps that are
left, and the walk goes on from the root or from the directory that holds the link. At the end of the path a
link is followed if the caller asks for it, or if a slash stands behind it.

At most `linkLimit` links are followed in one walk. The count is what the recursion of `walk` runs on: between
two links, `walkPlain` takes one step of the path at a time.

What stops a walk is the first thing that is wrong: a step out of something that is no directory, a directory
that may not be searched, a name that is too long, a name that is not there, or one link too many. A path that
is empty, holds a zero byte or is too long as a whole is refused before the walk starts.
-/

namespace Relabel
namespace Tree

/-- How many symbolic links one walk may follow. -/
def linkLimit : Nat := 40

/-- The length of the longest name. -/
def nameLimit : Nat := 255

/-- The length of the longest path. -/
def pathLimit : Nat := 4095

/-- The directory above a node and the node's entries, for a directory that may be searched. -/
def enter (tree : Tree) (id : NodeId) : Except SystemError (NodeId × List (Name × NodeId)) :=
  match tree.node? id with
  | none => .error .notFound
  | some node =>
    match node.content with
    | .directory above entries =>
      if node.allows tree.user .search then .ok (above, entries) else .error .denied
    | _ => .error .notDirectory

/-- The node of an entry. -/
def lookUp (entries : List (Name × NodeId)) (name : Name) : Except SystemError NodeId :=
  if nameLimit < name.length then .error .nameTooLong
  else
    match entries.find? (·.1 == name) with
    | some entry => .ok entry.2
    | none => .error .notFound

/-- The target of a symbolic link. -/
def target? (tree : Tree) (id : NodeId) : Option Path :=
  match tree.content? id with
  | some (.link target) => some target
  | _ => none

/-- Takes steps from the node `at_`; a link that has to be followed is handed to `follow`, with the
directory that holds it and the steps that are left. -/
def walkPlain (tree : Tree) (last : Bool)
    (follow : NodeId → Path → List Step → Except SystemError NodeId) (at_ : NodeId) :
    List Step → Except SystemError NodeId
  | [] => .ok at_
  | .directory :: rest =>
    match tree.content? at_ with
    | some (.directory _ _) => walkPlain tree last follow at_ rest
    | _ => .error .notDirectory
  | .stay :: rest =>
    match tree.enter at_ with
    | .error error => .error error
    | .ok _ => walkPlain tree last follow at_ rest
  | .up :: rest =>
    match tree.enter at_ with
    | .error error => .error error
    | .ok (above, _) => walkPlain tree last follow above rest
  | .down name :: rest =>
    match tree.enter at_ with
    | .error error => .error error
    | .ok (_, entries) =>
      match lookUp entries name with
      | .error error => .error error
      | .ok found =>
        match tree.target? found with
        | some target =>
          if rest.isEmpty && !last then .ok found else follow at_ target rest
        | none => walkPlain tree last follow found rest

/-- Where a walk along a path starts, seen from a directory. -/
def startOf (path : Path) (directory : NodeId) : NodeId :=
  if path.isAbsolute then root else directory

/-- Takes steps from a node and follows up to `links` symbolic links on the way; at the end of the path only
if `last` says so. -/
def walk (tree : Tree) (last : Bool) : Nat → NodeId → List Step → Except SystemError NodeId
  | 0 => walkPlain tree last fun _ _ _ => .error .tooManyLinks
  | links + 1 =>
    walkPlain tree last fun directory target rest =>
      walk tree last links (startOf target directory) (target.steps ++ rest)

/-- What is wrong with a path before any walk. -/
def refuse? (path : Path) : Option IoFault :=
  if path.bytes.contains 0 then some .zeroByteInPath
  else if path.bytes.isEmpty then some (.system .notFound)
  else if pathLimit < path.bytes.length then some (.system .nameTooLong)
  else none

/-- The node that a path leads to; a link at the end is followed if `last` says so. -/
def resolve (tree : Tree) (path : Path) (last : Bool) : Except IoFault NodeId :=
  match refuse? path with
  | some fault => .error fault
  | none =>
    match tree.walk last linkLimit (startOf path tree.here) path.steps with
    | .error error => .error (.system error)
    | .ok id => .ok id

end Tree
end Relabel
