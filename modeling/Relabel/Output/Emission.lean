import Relabel.Output.Event
import Relabel.Output.Mode
import Relabel.Text.Styled

/-!
# Emissions

What a run prints is a list of emissions: lines for the normal output or for the error output, in the order in
which they are printed. Here are the forms that a warning and a fatal error take in the two modes.
-/

namespace Relabel

/-- Where a line goes. -/
inductive Channel where
  /-- The normal output. -/
  | out
  /-- The error output. -/
  | err
  deriving DecidableEq, Repr

/-- Something printed. -/
structure Emission where
  /-- Where it goes. -/
  channel : Channel
  bytes : Bytes
  deriving DecidableEq, Repr

namespace Emission

/-- Everything printed on a channel. -/
def printed (channel : Channel) (emissions : List Emission) : Bytes :=
  (emissions.filter (·.channel = channel)).flatMap Emission.bytes

/-- A line of text. -/
def line (channel : Channel) (text : String) : Emission :=
  ⟨channel, Utf8.encode text ++ [Ascii.lineFeed]⟩

/-- A line of styled text. -/
def styledLine (channel : Channel) (colour : Bool) (styled : Styled) : Emission :=
  line channel (styled.shown colour)

/-- Text that is printed as it is. -/
def text (channel : Channel) (text : String) : Emission := ⟨channel, Utf8.encode text⟩

/-- An event. -/
def event (channel : Channel) (event : Event) : Emission :=
  ⟨channel, event.line ++ [Ascii.lineFeed]⟩

/-- A warning. -/
def warning (mode : OutputMode) (message code : String) : Emission :=
  match mode with
  | .json => event .err (.warning message code)
  | .interactive => line .err ("Warning: " ++ message)

/-- An error that ends the run. -/
def fatal (mode : OutputMode) (colour : Bool) (message : String) : Emission :=
  match mode with
  | .json => event .err (.error message "fatal")
  | .interactive => styledLine .err colour [⟨.red, "Error: " ++ message⟩]

end Emission

/-- The exit codes of a run. -/
inductive ExitCode where
  /-- All went well. -/
  | success
  /-- Something failed. -/
  | failure
  /-- The arguments were not understood. -/
  | usage
  /-- The run broke down. -/
  | breakdown
  deriving DecidableEq, Repr

/-- The number of an exit code. -/
def ExitCode.number : ExitCode → Nat
  | .success => 0
  | .failure => 1
  | .usage => 2
  | .breakdown => 101

end Relabel
