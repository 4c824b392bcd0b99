import Relabel.Text.Utf8

/-!
# Text without terminal control

Text that came from outside may hold escape sequences and control characters that a terminal would obey. Here
they are left out. The text is read the way a terminal does, in one of the states of `TerminalState`. White
space other than the blank is kept, even inside an escape sequence, and the characters that follow it on the
spot are kept with it.

There are two ways to go on after that. `Terminal.plain` forgets the sequence that was interrupted;
`Terminal.filtered` resumes it at the first character that is left out again, unless a character beyond ASCII
has been kept in between.

A character beyond ASCII is no part of any sequence and changes nothing, but for one: in a string for a device
the byte `0x9c` in its encoding counts as the end of the string.
-/

namespace Relabel

/-- What a terminal is in the middle of. -/
inductive TerminalState where
  /-- Nothing: it shows characters. -/
  | ground
  /-- An escape sequence of which it has seen the escape alone. -/
  | escape
  /-- An escape sequence with something between the escape and its last character. -/
  | intermediate
  /-- A control sequence. -/
  | control
  /-- A command for the system, which a bell ends. -/
  | systemCommand
  /-- The head of a string for a device, of which nothing has been seen. -/
  | deviceHead
  /-- The head of a string for a device, among its numbers. -/
  | deviceNumbers
  /-- The head of a string for a device, behind its numbers. -/
  | deviceMarks
  /-- A string for a device, or any other of that kind. -/
  | string
  deriving DecidableEq, Repr

namespace TerminalState

/-- Whether a character is white space other than the blank. -/
def isSpace (c : Char) : Bool := c = '\t' || c = '\n' || c = '\x0c' || c = '\r'

/-- Whether a character is a control character of ASCII. -/
def isControl (c : Char) : Bool := c.toNat < 0x20 || c = '\x7f'

/-- Whether a character is shown where no escape sequence is under way. -/
def shows (c : Char) : Bool := isSpace c || !isControl c

/-- The byte that ends a string for a device. -/
def stringEnd : UInt8 := 0x9c

/-- The state after the character behind an escape. -/
def afterEscape (c : Char) : TerminalState :=
  if c.toNat < 0x30 then .intermediate
  else if c = '[' then .control
  else if c = ']' then .systemCommand
  else if c = 'P' then .deviceHead
  else if c = 'X' || c = '^' || c = '_' then .string
  else .ground

/-- The state after a printable character of ASCII that is not shown. -/
def afterHidden (state : TerminalState) (c : Char) : TerminalState :=
  match state with
  | .ground => .ground
  | .escape => afterEscape c
  | .intermediate => if c.toNat < 0x30 then .intermediate else .ground
  | .control => if c.toNat < 0x40 then .control else .ground
  | .systemCommand => .systemCommand
  | .deviceHead =>
    if c.toNat < 0x30 then .deviceMarks else if c.toNat < 0x40 then .deviceNumbers else .string
  | .deviceNumbers =>
    if c.toNat < 0x30 then .deviceMarks else if c.toNat < 0x3c then .deviceNumbers else .string
  | .deviceMarks => if c.toNat < 0x30 then .deviceMarks else .string
  | .string => .string

/-- Whether white space is kept in a state: everywhere but in strings and commands. -/
def keepsSpace : TerminalState → Bool
  | .ground | .escape | .intermediate | .control => true
  | .systemCommand | .deviceHead | .deviceNumbers | .deviceMarks | .string => false

/-- Whether a character is kept in a state, and the state after it. -/
def step (state : TerminalState) (c : Char) : Bool × TerminalState :=
  if c = '\x1b' then (false, .escape)
  else if c = '\x18' || c = '\x1a' then (false, .ground)
  else if 0x7f < c.toNat then
    if state = .ground then (true, .ground)
    else if state = .string && (Utf8.encodeChar c).contains stringEnd then (false, .ground)
    else (false, state)
  else if isControl c then
    if isSpace c && state.keepsSpace then (true, state)
    else (false, if c = '\x07' && state = .systemCommand then .ground else state)
  else (state = .ground, state.afterHidden c)

end TerminalState

namespace Terminal

/-- The characters that are kept, from a state on. Where `resumes` is set, a sequence that was interrupted
goes on when the run of kept characters ends; `running` says whether there is such a run. -/
def keptFrom (resumes running : Bool) (state : TerminalState) : List Char → List Char
  | [] => []
  | c :: rest =>
    if running && TerminalState.shows c then
      c :: keptFrom resumes true (if c.toNat ≤ 0x7f then state else .ground) rest
    else
      let (kept, next) := state.step c
      if kept then c :: keptFrom resumes true (if resumes then next else .ground) rest
      else keptFrom resumes false next rest

/-- A text without what a terminal would obey. -/
def plain (text : String) : String := String.ofList (keptFrom false false .ground text.toList)

/-- A text as it is printed where a terminal would not obey it. -/
def filtered (text : String) : String := String.ofList (keptFrom true false .ground text.toList)

end Terminal
end Relabel
