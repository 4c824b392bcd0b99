import Relabel.Text.Ascii

/-!
# Why a text is not a document

A text that is not a document is refused with one cause at one place. Places are counted the way an
editor counts lines and the way a file counts columns: the line is one more than the number of line
feeds read, and the column is the number of bytes read of that line. A byte that was only looked at, not
taken, counts as read.
-/

namespace Relabel

/-- A kind of value that stands where the text of a number must stand. -/
inductive Found where
  | null
  /-- One of the words `true` and `false`. -/
  | bool (value : Bool)
  /-- A number that fits a 64-bit integer, with its digits. -/
  | integer (negative : Bool) (magnitude : Nat)
  /-- Any other number. -/
  | number
  | array
  | object
  deriving DecidableEq, Repr

/-- How a kind of value is named in a message. -/
def Found.name : Found → String
  | .null => "null"
  | .bool true => "boolean \x60true\x60"
  | .bool false => "boolean \x60false\x60"
  | .integer negative magnitude =>
    "integer \x60" ++ (if negative then "-" else "") ++ toString magnitude ++ "\x60"
  | .number => "number"
  | .array => "sequence"
  | .object => "map"

/-- What is wrong with a text that is not a document. -/
inductive Cause where
  | endInArray
  | endInObject
  | endInString
  /-- The text ends where a value must stand, or inside one. -/
  | endInValue
  | noColon
  /-- Neither a comma nor the end after an item of an array. -/
  | noItemEnd
  /-- Neither a comma nor the end after a member of an object. -/
  | noMemberEnd
  /-- A word that starts like `null`, `true` or `false` and goes on otherwise. -/
  | badWord
  /-- A byte that starts no value. -/
  | noValue
  /-- A backslash before a byte that is no escape. -/
  | badEscape
  | badNumber
  /-- A string whose bytes are not UTF-8. -/
  | badCharacter
  /-- A control character inside a string. -/
  | rawControl
  | nameNotString
  /-- A low surrogate without a high one before it, or a high one before no low one. -/
  | loneSurrogate
  /-- A high surrogate that no further escape follows. -/
  | endOfSurrogates
  | trailingComma
  | trailingText
  | tooDeep
  /-- Another value where the text of a number must stand. -/
  | notNumberText (found : Found)
  deriving DecidableEq, Repr

/-- The wording of a cause. -/
def Cause.message : Cause → String
  | .endInArray => "EOF while parsing a list"
  | .endInObject => "EOF while parsing an object"
  | .endInString => "EOF while parsing a string"
  | .endInValue => "EOF while parsing a value"
  | .noColon => "expected \x60:\x60"
  | .noItemEnd => "expected \x60,\x60 or \x60]\x60"
  | .noMemberEnd => "expected \x60,\x60 or \x60\x7d\x60"
  | .badWord => "expected ident"
  | .noValue => "expected value"
  | .badEscape => "invalid escape"
  | .badNumber => "invalid number"
  | .badCharacter => "invalid unicode code point"
  | .rawControl => "control character (\\u0000-\\u001F) found while parsing a string"
  | .nameNotString => "key must be a string"
  | .loneSurrogate => "lone leading surrogate in hex escape"
  | .endOfSurrogates => "unexpected end of hex escape"
  | .trailingComma => "trailing comma"
  | .trailingText => "trailing characters"
  | .tooDeep => "recursion limit exceeded"
  | .notNumberText found =>
    "invalid type: " ++ found.name ++ ", expected string containing a number"

/-- A place in a text. -/
structure Place where
  /-- One more than the number of line feeds before the place. -/
  line : Nat
  /-- The number of bytes before the place on its line. -/
  column : Nat
  deriving DecidableEq, Repr

namespace Place

/-- Where a text starts. -/
def start : Place := ⟨1, 0⟩

/-- The place one byte further on. -/
def step (place : Place) (b : UInt8) : Place :=
  if b = Ascii.lineFeed then ⟨place.line + 1, 0⟩ else ⟨place.line, place.column + 1⟩

/-- The place after some bytes from the start of a text. -/
def after (bytes : Bytes) : Place := bytes.foldl step start

end Place

/-- Why a text is not a document, and where that shows. -/
structure Fault where
  /-- What is wrong. -/
  cause : Cause
  /-- Where it shows. -/
  place : Place
  deriving DecidableEq, Repr

namespace Fault

/-- A fault that shows before the last `left` bytes of a text. -/
def atLeft (text : Bytes) (left : Nat) (cause : Cause) : Fault :=
  ⟨cause, Place.after (text.take (text.length - left))⟩

/-- A fault at the last byte taken from a text of which `rest` is left. -/
def here (text rest : Bytes) (cause : Cause) : Fault := atLeft text rest.length cause

/-- A fault at the next byte, looked at and not taken, of a text of which `rest` is left. -/
def next (text rest : Bytes) (cause : Cause) : Fault := atLeft text (rest.length - 1) cause

/-- A fault that shows `back` bytes before the last byte taken. -/
def before (text rest : Bytes) (back : Nat) (cause : Cause) : Fault :=
  atLeft text (rest.length + back) cause

/-- The wording of a fault: the cause and the place. -/
def message (fault : Fault) : String :=
  fault.cause.message ++ " at line " ++ toString fault.place.line ++ " column " ++
    toString fault.place.column

end Fault
end Relabel
