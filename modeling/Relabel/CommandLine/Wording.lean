import Relabel.CommandLine.Argument
import Relabel.File.Path
import Relabel.Text.Similarity
import Relabel.Text.Styled
import Relabel.Text.Terminal

/-!
# The wording of the command line

The usage, the help, the version, and what is said of a faulty command line, all as styled texts. They name
the program as it was called. What was written on the command line is shown in them, and without colours it is
shown without anything that a terminal would obey.
-/

namespace Relabel

/-- A styled text without its styles and without terminal control. -/
def Styled.plainText (styled : Styled) : String :=
  String.join (styled.map fun span => Terminal.plain span.text)

/-- A styled text as it is printed: with its styles where colours are wanted, and filtered where not. -/
def Styled.printed (colour : Bool) (styled : Styled) : String :=
  if colour then styled.shown true
  else String.join (styled.map fun span => Terminal.filtered span.text)

namespace CommandLine

/-! ## Usage -/

/-- The name of the program. -/
def programName : String := "rekey"

/-- The version of the program. -/
def programVersion : String := "0.1.0"

/-- The name by which the program was called: the last name of the first argument. -/
def calledName (arguments : List String) : String :=
  match (arguments.head?.map Path.ofString).bind Path.fileName? with
  | some name => Utf8.decodeLossy name
  | none => programName

/-- An option in the usage. -/
def usageOption (option : Argument) : Styled :=
  [.plain " ", ⟨.bold, "--" ++ option.name⟩, .plain option.tail]

/-- The options that the usage shows: any, or just those that are there. -/
def usageOptions (present : List Argument) : Styled :=
  match present with
  | [] => [.plain " [OPTIONS]"]
  | present => (present.eraseDups.filter (· ≠ .directory)).flatMap usageOption

/-- The directory in the usage: it can be left out, unless it is there. -/
def usageDirectory (present : List Argument) : Styled :=
  if present.contains .directory then [.plain (" <" ++ Argument.directory.name ++ ">")]
  else [.plain (" " ++ Argument.directory.shown)]

/-- The usage, without a line feed at its end. -/
def usage (called : String) (present : List Argument) : Styled :=
  [⟨.heading, "Usage:"⟩, .plain " ", ⟨.bold, called⟩] ++ usageOptions present ++
    usageDirectory present

/-! ## Help and version -/

/-- What the program is for. -/
def about : String :=
  "Rename the top-level '" ++ sourceName ++ "' key to '" ++ targetName ++
    "' in every JSON file of a directory"

/-- An option in the help, before its purpose. -/
def helpLead (option : Argument) : Styled :=
  let letter := match option.letter? with
    | some letter => [⟨.bold, String.ofList ['-', letter]⟩, .plain ", "]
    | none => [.plain "    "]
  letter ++ [⟨.bold, "--" ++ option.name⟩, .plain option.tail]

/-- The length of the longest lead. -/
def helpIndent : Nat :=
  (Argument.options.map fun option => (helpLead option).text.length).foldl max 0

/-- The line of an option in the help. -/
def helpLine (option : Argument) : Styled :=
  let lead := helpLead option
  let blanks := String.ofList (List.replicate (helpIndent - lead.text.length + 2) ' ')
  .plain "  " :: lead ++ [.plain (blanks ++ option.purpose ++ "\n")]

/-- The help. -/
def help (called : String) : Styled :=
  [.plain (about ++ "\n\n")] ++ usage called [] ++
    [.plain "\n\n", ⟨.heading, "Arguments:"⟩,
      .plain ("\n  " ++ Argument.directory.shown ++ "  " ++ Argument.directory.purpose ++ "\n\n"),
      ⟨.heading, "Options:"⟩, .plain "\n"] ++
    Argument.options.flatMap helpLine

/-- The version. -/
def version : Styled := [.plain (programName ++ " " ++ programVersion ++ "\n")]

/-! ## Faults -/

/-- A word in single quotes. -/
def quoted (style : Style) (text : String) : Styled :=
  [.plain "'", ⟨style, text⟩, .plain "'"]

/-- The values that an argument can have, if they can be told. -/
def possibleValues : Argument → Styled
  | .mode =>
    [.plain "\n  [possible values: "] ++
      ((OutputMode.words.map fun word => [(⟨.green, word⟩ : Span)]).intersperse
        [.plain ", "]).flatten ++ [.plain "]"]
  | _ => []

/-- A tip. -/
def tip (text : Styled) : Styled :=
  [.plain "\n\n  ", ⟨.green, "tip:"⟩, .plain " "] ++ text

/-- The tip that something similar exists. -/
def similarTip (kind text : String) : Styled :=
  tip (.plain ("a similar " ++ kind ++ " exists: ") :: quoted .green text)

/-- The tip of a hint. -/
def hintTip (text : String) : Hint → Styled
  | .similar option => similarTip "argument" ("--" ++ option.name)
  | .asValue =>
    tip (.plain "to pass " :: quoted .yellow text ++ .plain " as a value, use " ::
      quoted .green ("-- " ++ text))

/-- The tip about the mode that a word is similar to. -/
def modeTip (word : String) : Styled :=
  match Similarity.suggest? word OutputMode.words with
  | some similar => similarTip "value" similar
  | none => []

/-- What is wrong, in words. -/
def faultText : ArgumentFault → Styled
  | .unknown text hint _ =>
    .plain "unexpected argument " :: quoted .yellow text ++ .plain " found" ::
      (hint.map (hintTip text)).getD []
  | .repeated argument =>
    .plain "the argument " :: quoted .yellow argument.shown ++
      [.plain " cannot be used multiple times"]
  | .unexpectedValue value option _ =>
    .plain "unexpected value " :: quoted .yellow value ++ .plain " for " ::
      quoted .bold option.shown ++ [.plain " found; no more were expected"]
  | .missingValue argument =>
    .plain "a value is required for " :: quoted .yellow argument.shown ++
      .plain " but none was supplied" :: possibleValues argument
  | .unknownMode word =>
    .plain "invalid value " :: quoted .yellow word ++ .plain " for " ::
      quoted .bold Argument.mode.shown ++ possibleValues .mode ++ modeTip word

/-- The usage that a fault shows, where it shows one. -/
def faultUsage (called : String) : ArgumentFault → Styled
  | .unknown _ _ present => .plain "\n\n" :: usage called present
  | .repeated _ => .plain "\n\n" :: usage called []
  | .unexpectedValue _ _ present => .plain "\n\n" :: usage called present
  | .missingValue _ | .unknownMode _ => []

/-- What is said of a faulty command line. -/
def faultMessage (called : String) (fault : ArgumentFault) : Styled :=
  ⟨.boldRed, "error:"⟩ :: .plain " " :: faultText fault ++ faultUsage called fault ++
    .plain "\n\nFor more information, try " :: quoted .bold "--help" ++ [.plain ".\n"]

/-- What is said where reading a command line stops. -/
def stopMessage (called : String) : Stop → Styled
  | .help => help called
  | .version => version
  | .fault fault => faultMessage called fault

end CommandLine
end Relabel
