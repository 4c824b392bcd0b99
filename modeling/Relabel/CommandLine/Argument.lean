import Relabel.Batch
import Relabel.Output.Mode

/-!
# The arguments of the program

What a command line may hold: one directory and six options, two of which only ask for help or the version.
An option is written by its long name behind two hyphens or, if it has one, by its letter behind one hyphen;
letters can stand together. Only the mode takes a value.
-/

namespace Relabel

/-- Something that a command line can hold. -/
inductive Argument where
  /-- The directory whose entries are revised. -/
  | directory
  | keepGoing
  | skipDirectories
  | mode
  /-- Log more; can be given several times. -/
  | verbose
  | help
  | version
  deriving DecidableEq, Repr

namespace Argument

/-- The options in the order of the help. -/
def options : List Argument := [.keepGoing, .skipDirectories, .mode, .verbose, .help, .version]

/-- The long name of an option; that of the directory is its place. -/
def name : Argument → String
  | .directory => "DIR"
  | .keepGoing => "keep-going"
  | .skipDirectories => "skip-dirs"
  | .mode => "mode"
  | .verbose => "verbose"
  | .help => "help"
  | .version => "version"

/-- The letter of an option. -/
def letter? : Argument → Option Char
  | .keepGoing => some 'k'
  | .skipDirectories => some 's'
  | .verbose => some 'v'
  | .help => some 'h'
  | .version => some 'V'
  | .directory | .mode => none

/-- What an argument is for. -/
def purpose : Argument → String
  | .directory => "Directory whose entries are rewritten in place [default: .]"
  | .keepGoing => "Attempt every entry and report failures individually"
  | .skipDirectories => "Skip sub-directories instead of failing on them"
  | .mode => "Output mode [default: interactive] [possible values: interactive, json]"
  | .verbose => "Increase log verbosity (repeatable)"
  | .help => "Print help"
  | .version => "Print version"

/-- What stands behind the name of an option: its value, or dots if it can be repeated. -/
def tail : Argument → String
  | .mode => " <MODE>"
  | .verbose => "..."
  | _ => ""

/-- An argument as it stands in messages. -/
def shown : Argument → String
  | .directory => "[DIR]"
  | option => "--" ++ option.name ++ option.tail

/-- The option with a long name. -/
def ofName? (name : String) : Option Argument := options.find? (·.name = name)

/-- The option with a letter. -/
def ofLetter? (letter : Char) : Option Argument := options.find? (·.letter? = some letter)

end Argument

/-- The words for the modes. -/
def OutputMode.words : List String := ["interactive", "json"]

/-- What a command line asks for. -/
structure Settings where
  /-- The directory whose entries are revised. -/
  directory : String
  /-- How the batch is run. -/
  options : Options
  /-- How often more log was asked for. -/
  verbosity : Nat
  /-- The output mode that was asked for. -/
  mode : OutputMode
  deriving DecidableEq, Repr

/-- A hint how an unknown argument might have been meant. -/
inductive Hint where
  /-- As another option. -/
  | similar (option : Argument)
  /-- As a value, which stands behind two hyphens. -/
  | asValue
  deriving DecidableEq, Repr

/-- What is wrong with a command line. -/
inductive ArgumentFault where
  /-- There is no such argument; `present` are the arguments that the usage then shows. -/
  | unknown (text : String) (hint : Option Hint) (present : List Argument)
  | repeated (argument : Argument)
  /-- An option that takes no value has one. -/
  | unexpectedValue (value : String) (option : Argument) (present : List Argument)
  /-- An argument lacks its value, or has an empty one. -/
  | missingValue (argument : Argument)
  | unknownMode (word : String)
  deriving DecidableEq, Repr

/-- Why reading a command line stops short of settings. -/
inductive Stop where
  | help
  | version
  /-- Something is wrong. -/
  | fault (fault : ArgumentFault)
  deriving DecidableEq, Repr

end Relabel
