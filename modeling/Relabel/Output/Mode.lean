/-!
# Output modes

A run talks either to a person or to another program. `OutputMode.detect` finds out which before the arguments
are read in earnest, so that even a complaint about the arguments takes the right form: the first `--mode`
decides, whatever comes after it, and a word that names no mode counts as a wish for JSON.

A mode is settled once. `ModeCell` holds it: the first mode put in stays, and asking for the mode of an empty
cell settles it as `interactive`.
-/

namespace Relabel

/-- Whom a run talks to. -/
inductive OutputMode where
  /-- A person. -/
  | interactive
  /-- Another program. -/
  | json
  deriving DecidableEq, Repr

namespace OutputMode

/-- The mode that a word asks for. -/
def ofWord (word : String) : OutputMode :=
  if word.toLower = "interactive" then .interactive else .json

/-- What stands behind `--mode=`, in an argument that starts so. -/
def attachedWord? (argument : String) : Option String :=
  let lead := "--mode=".toList
  if lead.isPrefixOf argument.toList then
    some (String.ofList (argument.toList.drop lead.length))
  else none

/-- The mode that arguments without a program name ask for. -/
def detectIn : List String → OutputMode
  | [] => .interactive
  | argument :: rest =>
    if argument = "--mode" then
      match rest with
      | word :: _ => ofWord word
      | [] => .json
    else
      match attachedWord? argument with
      | some word => ofWord word
      | none => detectIn rest

/-- The mode that the arguments of a run ask for, the program's name being the first of them. -/
def detect (arguments : List String) : OutputMode := detectIn (arguments.drop 1)

end OutputMode

/-- A place for a mode, empty or settled. -/
abbrev ModeCell := Option OutputMode

namespace ModeCell

/-- An empty cell. -/
def empty : ModeCell := none

/-- Puts a mode in, unless there is one. -/
def settle (cell : ModeCell) (mode : OutputMode) : ModeCell := cell.or (some mode)

/-- The mode of a cell, which is settled then. -/
def get (cell : ModeCell) : OutputMode × ModeCell :=
  let mode := cell.getD .interactive
  (mode, some mode)

end ModeCell
end Relabel
