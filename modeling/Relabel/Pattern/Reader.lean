import Relabel.Pattern.Class
import Relabel.Text.Alphanumeric

/-!
# Reading patterns

A pattern is read from left to right. The groups that are still open are kept in a list, the innermost first,
each with what was read before it. Flags that are switched in a group have no effect behind it; here only the
flag for blanks and comments matters, since it says what is skipped.
-/

namespace Relabel
namespace Pattern

/-- What has been read of a group, or outside all groups. -/
structure Level where
  /-- The alternatives that are complete. -/
  choices : List Pattern
  /-- The parts of the alternative that is being read. -/
  parts : List Pattern
  deriving Repr

namespace Level

/-- Nothing has been read. -/
def start : Level := ⟨[], []⟩

/-- One part more. -/
def add (level : Level) (part : Pattern) : Level := { level with parts := level.parts ++ [part] }

/-- One alternative more. -/
def next (level : Level) : Level := ⟨level.choices ++ [.ofSequence level.parts], []⟩

/-- The pattern of everything that has been read. -/
def pattern (level : Level) : Pattern := .ofChoices level.next.choices

/-- The last part is repeated, if it can be. -/
def repeatLast? (level : Level) : Option Level :=
  match level.parts.getLast? with
  | some part =>
    if part.isRepeatable then some { level with parts := level.parts.dropLast ++ [.repetition part] }
    else none
  | none => none

end Level

/-- A group that is open. -/
structure OpenGroup where
  /-- What was read before it. -/
  before : Level
  /-- The flags that are switched in it. -/
  switches : Switches
  /-- Whether blanks and comments were skipped before it. -/
  extended : Bool
  deriving Repr

/-- How far the reading of a pattern has come. -/
structure Reading where
  /-- What has been read of the innermost group that is open. -/
  level : Level
  /-- The groups that are open, the innermost first. -/
  groups : List OpenGroup
  /-- The names of groups so far. -/
  names : List String
  /-- Whether blanks and comments are skipped. -/
  extended : Bool
  deriving Repr

namespace Reading

/-- Nothing has been read. -/
def start : Reading := ⟨.start, [], [], false⟩

/-- One part more. -/
def add (reading : Reading) (part : Pattern) : Reading :=
  { reading with level := reading.level.add part }

/-- A group is opened in which flags are switched. -/
def enter (reading : Reading) (switches : Switches) : Reading :=
  { reading with
    level := .start
    groups := ⟨reading.level, switches, reading.extended⟩ :: reading.groups
    extended := (switches.state? .extended).getD reading.extended }

/-- The innermost group is closed, if there is one. -/
def leave? (reading : Reading) : Option Reading :=
  match reading.groups with
  | [] => none
  | innermost :: outer =>
    some { reading with
      level := innermost.before.add (.group innermost.switches reading.level.pattern)
      groups := outer
      extended := innermost.extended }

/-- Flags are switched from here on. -/
def switch (reading : Reading) (switches : Switches) : Reading :=
  { reading.add (.flags switches) with
    extended := (switches.state? .extended).getD reading.extended }

end Reading

/-! ## The start of a group -/

/-- The flag with a letter. -/
def flagOf? : Char → Option Flag
  | 'i' => some .caseless
  | 'm' => some .multiLine
  | 's' => some .dotAll
  | 'U' => some .swapGreed
  | 'u' => some .unicode
  | 'R' => some .carriageReturn
  | 'x' => some .extended
  | _ => none

/-- The flags up to a colon or a closing parenthesis, and the rest from there on. Each may be there once, and
so may the hyphen, behind which flags are switched off. -/
def readFlags (switches : Switches) (on dangling : Bool) :
    List Char → Option (Switches × List Char)
  | [] => none
  | c :: rest =>
    if c = ':' || c = ')' then if dangling then none else some (switches, c :: rest)
    else if c = '-' then if on then readFlags switches false true rest else none
    else
      match flagOf? c with
      | some flag =>
        if (switches.state? flag).isSome then none
        else readFlags (switches ++ [(flag, on)]) on false rest
      | none => none

/-- Whether a name of a group can hold a character: the first one has to be a letter or a low line. -/
def isNameChar (first : Bool) (c : Char) : Bool :=
  c = '_' || CharSet.letter.contains c ||
    (!first && (CharSet.number.contains c || c = '.' || c = '[' || c = ']'))

/-- The name of a group up to its end, and the rest behind that. -/
def readName (first : Bool) : List Char → Option (List Char × List Char)
  | [] => none
  | c :: rest =>
    if c = '>' then if first then none else some ([], rest)
    else if isNameChar first c then
      (readName false rest).map fun (name, rest) => (c :: name, rest)
    else none

/-- The start of a group with a name. -/
def enterNamed (reading : Reading) (text : List Char) : Option (Reading × List Char) :=
  match readName true text with
  | some (name, rest) =>
    let name := String.ofList name
    if reading.names.contains name then none
    else some ({ reading.enter [] with names := name :: reading.names }, rest)
  | none => none

/-- The start of a group with flags, or flags alone. -/
def enterFlags (reading : Reading) (text : List Char) : Option (Reading × List Char) :=
  match readFlags [] true false text with
  | some (switches, ':' :: rest) => some (reading.enter switches, rest)
  | some (switches, ')' :: rest) =>
    if switches.isEmpty then none else some (reading.switch switches, rest)
  | _ => none

/-- What stands behind an opening parenthesis. Looking ahead and looking behind are not possible. -/
def enterGroup (reading : Reading) (text : List Char) : Option (Reading × List Char) :=
  match skip reading.extended text with
  | '?' :: '=' :: _ | '?' :: '!' :: _ | '?' :: '<' :: '=' :: _ | '?' :: '<' :: '!' :: _ => none
  | '?' :: 'P' :: '<' :: rest => enterNamed reading rest
  | '?' :: '<' :: rest => enterNamed reading rest
  | '?' :: rest => enterFlags reading rest
  | rest => some (reading.enter [], rest)

/-! ## Patterns -/

/-- A repetition sign, behind which a question mark makes it as short as possible. -/
def readRepetition (reading : Reading) (rest : List Char) : Option (Reading × List Char) :=
  reading.level.repeatLast?.map fun level =>
    ({ reading with level := level }, if rest.head? = some '?' then rest.drop 1 else rest)

/-- One step, at a character. -/
def readStep (reading : Reading) (c : Char) (rest : List Char) : Option (Reading × List Char) :=
  match c with
  | '(' => enterGroup reading rest
  | ')' => reading.leave?.map (·, rest)
  | '|' => some ({ reading with level := reading.level.next }, rest)
  | '[' => (readClass reading.extended rest).map fun (part, rest) => (reading.add part, rest)
  | '?' | '*' | '+' => readRepetition reading rest
  | '\x7b' => none
  | c => (readAtom reading.extended (c :: rest)).map fun (part, rest) => (reading.add (.atom part), rest)

/-- Reads on to the end of the text. -/
def readFrom : Nat → Reading → List Char → Option Pattern
  | 0, _, _ => none
  | budget + 1, reading, text =>
    match skip reading.extended text with
    | [] => if reading.groups.isEmpty then some reading.level.pattern else none
    | c :: rest =>
      match readStep reading c rest with
      | some (reading, rest) => readFrom budget reading rest
      | none => none

/-- How deep a pattern may nest. -/
def depthLimit : Nat := 250

/-- The pattern that a text describes. -/
def ofText? (text : List Char) : Option Pattern :=
  (readFrom (text.length + 1) .start text).filter (·.depth ≤ depthLimit)

end Pattern
end Relabel
