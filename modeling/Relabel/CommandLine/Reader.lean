import Relabel.CommandLine.Argument
import Relabel.Text.Similarity

/-!
# Reading a command line

The arguments are taken one by one. A value is not looked at when it comes but when the next option or
directory comes, or at the end: until then it is *pending*. So of two faults the earlier one is reported, with
one exception. An argument that cannot be placed at all is reported at once; the pending value then only
counts among the arguments that the usage shows, which are kept in `Reading.present`.

Behind a lone `--` every argument is a directory, whatever it looks like.
-/

namespace Relabel
namespace CommandLine

/-- A value that has not been looked at. -/
inductive Pending where
  | directory (path : String)
  /-- The option for the mode, and its value if that has come. -/
  | mode (word : Option String)
  deriving DecidableEq, Repr

/-- What has been read so far. -/
structure Reading where
  present : List Argument
  /-- The value that has not been looked at. -/
  pending : Option Pending
  directory : String
  /-- How often more log was asked for. -/
  verbosity : Nat
  mode : OutputMode
  deriving DecidableEq, Repr

/-- What has been read before the first argument: the settings of an empty command line. -/
def Reading.start : Reading := ⟨[], none, ".", 0, .interactive⟩

/-- How often more log can be asked for. -/
def greatestVerbosity : Nat := 255

/-! ## Looking at values -/

/-- Takes a value of the option for the mode. -/
def takeMode (reading : Reading) (word : String) : Reading × Option ArgumentFault :=
  if reading.present.contains .mode then
    ({ reading with present := reading.present.erase .mode }, some (.repeated .mode))
  else
    let reading := { reading with present := reading.present ++ [.mode] }
    match word with
    | "interactive" => ({ reading with mode := .interactive }, none)
    | "json" => ({ reading with mode := .json }, none)
    | "" => (reading, some (.missingValue .mode))
    | word => (reading, some (.unknownMode word))

/-- Takes a directory. -/
def takeDirectory (reading : Reading) (path : String) : Reading × Option ArgumentFault :=
  let reading := { reading with present := reading.present ++ [.directory] }
  if path = "" then (reading, some (.missingValue .directory))
  else ({ reading with directory := path }, none)

/-- Looks at the pending value: what has been read then, and what is wrong with the value. -/
def settle (reading : Reading) : Reading × Option ArgumentFault :=
  let settled := { reading with pending := none }
  match reading.pending with
  | none => (settled, none)
  | some (.directory path) => takeDirectory settled path
  | some (.mode none) => (settled, some (.missingValue .mode))
  | some (.mode (some word)) => takeMode settled word

/-- Looks at the pending value, and reads on if nothing is wrong with it. -/
def settled (reading : Reading) : Except Stop Reading :=
  match settle reading with
  | (reading, none) => .ok reading
  | (_, some fault) => .error (.fault fault)

/-! ## Options -/

/-- Takes an option that is given without a value. -/
def takeFlag (reading : Reading) (flag : Argument) : Except Stop Reading :=
  match settled reading with
  | .error stop => .error stop
  | .ok reading =>
    match flag with
    | .help => .error .help
    | .version => .error .version
    | .verbose =>
      .ok { reading with
        present := reading.present.erase .verbose ++ [.verbose],
        verbosity := min (reading.verbosity + 1) greatestVerbosity }
    | flag =>
      if reading.present.contains flag then .error (.fault (.repeated flag))
      else .ok { reading with present := reading.present ++ [flag] }

/-- Takes options given by their letters. -/
def takeLetters (reading : Reading) : List Char → Except Stop Reading
  | [] => .ok reading
  | letter :: rest =>
    match Argument.ofLetter? letter with
    | some flag =>
      match takeFlag reading flag with
      | .error stop => .error stop
      | .ok reading => takeLetters reading rest
    | none =>
      .error (.fault (.unknown (String.ofList ['-', letter]) (some .asValue) []))

/-- The fault of an option with an unknown long name. -/
def unknownName (reading : Reading) (name : String) : ArgumentFault :=
  let present := (settle reading).1.present
  match (Similarity.suggest? name (Argument.options.map Argument.name)).bind Argument.ofName? with
  | some option => .unknown ("--" ++ name) (some (.similar option)) (present ++ [option])
  | none => .unknown ("--" ++ name) (some .asValue) present

/-- Takes an option given by its long name, with the value behind an equals sign if there is one. -/
def takeName (reading : Reading) (name : String) (value : Option String) : Except Stop Reading :=
  match Argument.ofName? name, value with
  | none, _ => .error (.fault (unknownName reading name))
  | some .mode, none =>
    match settled reading with
    | .error stop => .error stop
    | .ok reading => .ok { reading with pending := some (.mode none) }
  | some .mode, some word =>
    match settled reading with
    | .error stop => .error stop
    | .ok reading =>
      match takeMode reading word with
      | (reading, none) => .ok reading
      | (_, some fault) => .error (.fault fault)
  | some option, some value =>
    .error (.fault (.unexpectedValue value option (reading.present ++ [option])))
  | some option, none => takeFlag reading option

/-! ## Arguments -/

/-- Whether there is a directory already. -/
def hasDirectory (reading : Reading) : Bool :=
  reading.present.contains .directory ||
    match reading.pending with
    | some (.directory _) => true
    | _ => false

/-- Takes an argument that is no option: a directory. -/
def takePositional (reading : Reading) (text : String) : Except Stop Reading :=
  if hasDirectory reading then .error (.fault (.unknown text none []))
  else
    match settled reading with
    | .error stop => .error stop
    | .ok reading => .ok { reading with pending := some (.directory text) }

/-- Takes an argument that does not look like an option: a value if the option for the mode waits for one,
and a directory if not. -/
def takeValue (reading : Reading) (text : String) : Except Stop Reading :=
  match reading.pending with
  | some (.mode none) => .ok { reading with pending := some (.mode (some text)) }
  | _ => takePositional reading text

/-- A long name, and the value behind the first equals sign if there is one. -/
def splitName : List Char → List Char × Option (List Char)
  | [] => ([], none)
  | '=' :: rest => ([], some rest)
  | c :: rest =>
    let (name, value) := splitName rest
    (c :: name, value)

/-- Takes an argument before any lone `--`. -/
def take (reading : Reading) (argument : String) : Except Stop Reading :=
  match argument.toList with
  | '-' :: '-' :: rest =>
    let (name, value) := splitName rest
    takeName reading (String.ofList name) (value.map String.ofList)
  | '-' :: letter :: rest => takeLetters reading (letter :: rest)
  | _ => takeValue reading argument

/-- The settings once all arguments have been read. -/
def finish (reading : Reading) : Except Stop Settings :=
  match settled reading with
  | .error stop => .error stop
  | .ok reading =>
    .ok {
      directory := reading.directory
      options := {
        policy := if reading.present.contains .keepGoing then .keepGoing else .firstError
        skipDirectories := reading.present.contains .skipDirectories }
      verbosity := reading.verbosity
      mode := reading.mode }

/-- Reads arguments behind a lone `--`. -/
def readTrailing (reading : Reading) : List String → Except Stop Settings
  | [] => finish reading
  | argument :: rest =>
    match takePositional reading argument with
    | .error stop => .error stop
    | .ok reading => readTrailing reading rest

/-- Reads arguments. -/
def readFrom (reading : Reading) : List String → Except Stop Settings
  | [] => finish reading
  | argument :: rest =>
    if argument = "--" then readTrailing reading rest
    else
      match take reading argument with
      | .error stop => .error stop
      | .ok reading => readFrom reading rest

/-- Reads a command line, the program's name being the first argument. -/
def read (arguments : List String) : Except Stop Settings := readFrom .start (arguments.drop 1)

end CommandLine
end Relabel
