import Relabel.File.IoFault
import Relabel.File.Path
import Relabel.Json.Fault

/-!
# Failures

What keeps the listing of a directory or the revision of a file from succeeding. A `Failure` names the path
as it was given and the cause beneath it, if there is one. It has two faces: `Failure.code` is the stable name
for other programs, `Failure.message` the sentence for people, in which the path is shown as text.
-/

namespace Relabel

/-- Why a directory could not be listed or a file could not be revised. -/
inductive Failure where
  /-- The path leads to something that is no regular file. -/
  | notAFile (path : Path)
  /-- The path leads to something that is no directory. -/
  | notADirectory (path : Path)
  /-- The file does not hold a document. -/
  | invalidJson (path : Path) (fault : Fault)
  /-- The document is no object, or has no member of that name. -/
  | missingKey (path : Path) (key : String)
  /-- The file or directory could not be reached. -/
  | io (path : Path) (fault : IoFault)
  deriving DecidableEq, Repr

namespace Failure

/-- The stable name of a failure. -/
def code : Failure → String
  | .notAFile _ => "not_a_file"
  | .notADirectory _ => "not_a_directory"
  | .invalidJson _ _ => "invalid_json"
  | .missingKey _ _ => "missing_key"
  | .io _ _ => "io"

/-- The path a failure speaks of. -/
def path : Failure → Path
  | .notAFile path => path
  | .notADirectory path => path
  | .invalidJson path _ => path
  | .missingKey path _ => path
  | .io path _ => path

/-- The wording of the cause beneath a failure. -/
def cause? : Failure → Option String
  | .invalidJson _ fault => some fault.message
  | .io _ fault => some fault.message
  | _ => none

/-- The wording of a failure. -/
def message : Failure → String
  | .notAFile path => "'" ++ path.shown ++ "' is not a regular file"
  | .notADirectory path => "'" ++ path.shown ++ "' is not a directory"
  | .invalidJson path fault => "'" ++ path.shown ++ "' is not valid JSON: " ++ fault.message
  | .missingKey path key => "'" ++ path.shown ++ "' has no top-level key '" ++ key ++ "'"
  | .io path fault => "I/O error on '" ++ path.shown ++ "': " ++ fault.message

end Failure
end Relabel
