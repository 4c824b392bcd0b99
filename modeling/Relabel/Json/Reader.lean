import Relabel.Json.Document
import Relabel.Json.Fault
import Relabel.Text.Utf8

/-!
# Reading a document

`Document.read` takes the bytes of a text and answers with the document or with the first fault. Every
reading function takes the whole text, which fixes places, and what of it is still unread, and gives back
a value with what it left unread.

The grammar is that of the JSON standard with these decisions:

* white space is space, tab, line feed and carriage return, and there is no byte order mark;
* at most `depthLimit` arrays and objects are open at once;
* a name that is repeated in an object keeps its first place and its last value;
* escaped surrogates must come in pairs, and the bytes of a string are checked to be UTF-8 once, when
  its closing quotation mark has been read and its escapes have been resolved;
* an object whose *first* name is `numberMark` is the written form of a number: its value must be a
  string that holds exactly one number literal, and nothing may follow it.

The functions that read values call each other, and each call is paid from a budget of steps. Two steps
a byte are enough, because a value that does not consume a byte itself hands on to a reader that does;
`Document.read` hides the budget.
-/

namespace Relabel

/-- What a reading function gives: a value and the bytes it left unread, or a fault. -/
abbrev Reading (α : Type) := Except Fault (α × Bytes)

namespace Reader

/-! ## White space -/

/-- Whether a byte is white space. -/
def isBlank (b : UInt8) : Bool :=
  b = Ascii.space || b = Ascii.lineFeed || b = Ascii.tab || b = Ascii.carriageReturn

/-- The bytes from the first one that is not white space. -/
def skipBlank (rest : Bytes) : Bytes := rest.dropWhile isBlank

/-! ## Words -/

/-- Reads the rest of a word. -/
def word (text : Bytes) : Bytes → Bytes → Except Fault Bytes
  | [], rest => .ok rest
  | _ :: _, [] => .error (.here text [] .endInValue)
  | w :: ws, b :: rest =>
    if b = w then word text ws rest else .error (.here text rest .badWord)

/-! ## Strings -/

/-- The code unit of four hexadecimal digits. -/
def hexUnit? (a b c d : UInt8) : Option Nat := do
  let a ← Ascii.hexValue? a
  let b ← Ascii.hexValue? b
  let c ← Ascii.hexValue? c
  let d ← Ascii.hexValue? d
  return ((a * 16 + b) * 16 + c) * 16 + d

/-- Reads the four digits of a code unit. -/
def hexUnit (text : Bytes) : Bytes → Reading Nat
  | a :: b :: c :: d :: rest =>
    match hexUnit? a b c d with
    | some unit => .ok (unit, rest)
    | none => .error (.here text rest .badEscape)
  | _ => .error (.here text [] .endInString)

/-- Whether a code unit is the second half of a surrogate pair. -/
def isLowSurrogate (unit : Nat) : Bool := 0xdc00 ≤ unit && unit ≤ 0xdfff

/-- Whether a code unit is the first half of a surrogate pair. -/
def isHighSurrogate (unit : Nat) : Bool := 0xd800 ≤ unit && unit ≤ 0xdbff

/-- The code of a surrogate pair. -/
def pairCode (high low : Nat) : Nat := (high - 0xd800) * 0x400 + (low - 0xdc00) + 0x10000

/-- Reads one byte that must follow a high surrogate. -/
def afterHigh (text : Bytes) (wanted : UInt8) : Bytes → Except Fault Bytes
  | [] => .error (.here text [] .endInString)
  | b :: rest =>
    if b = wanted then .ok rest else .error (.here text rest .endOfSurrogates)

/-- Reads what follows the letter of a `\u` escape: the bytes of the character it stands for. -/
def unicodeEscape (text rest : Bytes) : Reading Bytes :=
  match hexUnit text rest with
  | .error fault => .error fault
  | .ok (unit, rest) =>
    if isLowSurrogate unit then .error (.here text rest .loneSurrogate)
    else if !isHighSurrogate unit then .ok (Utf8.encodeCode unit, rest)
    else
      match afterHigh text Ascii.backslash rest with
      | .error fault => .error fault
      | .ok rest =>
        match afterHigh text (Ascii.byte 'u') rest with
        | .error fault => .error fault
        | .ok rest =>
          match hexUnit text rest with
          | .error fault => .error fault
          | .ok (low, rest) =>
            if isLowSurrogate low then .ok (Utf8.encodeCode (pairCode unit low), rest)
            else .error (.here text rest .loneSurrogate)

/-- The byte that a one-letter escape stands for. -/
def plainEscape? (b : UInt8) : Option UInt8 :=
  if b = Ascii.quote then some Ascii.quote
  else if b = Ascii.backslash then some Ascii.backslash
  else if b = Ascii.slash then some Ascii.slash
  else if b = Ascii.byte 'b' then some 0x08
  else if b = Ascii.byte 'f' then some 0x0c
  else if b = Ascii.byte 'n' then some Ascii.lineFeed
  else if b = Ascii.byte 'r' then some Ascii.carriageReturn
  else if b = Ascii.byte 't' then some Ascii.tab
  else none

/-- Reads what follows a backslash: the bytes that the escape stands for. -/
def escape (text : Bytes) : Bytes → Reading Bytes
  | [] => .error (.here text [] .endInString)
  | b :: rest =>
    match plainEscape? b with
    | some plain => .ok ([plain], rest)
    | none =>
      if b = Ascii.byte 'u' then unicodeEscape text rest
      else .error (.here text rest .badEscape)

/-- Reads a string up to its closing quotation mark: the bytes it stands for. `read` holds the bytes so
far, the last first, and each step is paid with a byte of `budget`. -/
def stringBytes (text : Bytes) : Bytes → Bytes → Bytes → Reading Bytes
  | _, _, [] => .error (.here text [] .endInString)
  | [], _, b :: rest => .error (.here text (b :: rest) .endInString)
  | _ :: budget, read, b :: rest =>
    if b = Ascii.quote then .ok (read.reverse, rest)
    else if b = Ascii.backslash then
      match escape text rest with
      | .error fault => .error fault
      | .ok (bytes, rest) => stringBytes text budget (bytes.reverse ++ read) rest
    else if b < 0x20 then .error (.here text rest .rawControl)
    else stringBytes text budget (b :: read) rest

/-- Reads what follows the opening quotation mark of a string. Bytes that are not UTF-8 are a fault
that shows as many bytes before the end of the string as its text has from the first of them on. The string
is its own budget, because every step takes at least one of its bytes. -/
def string (text rest : Bytes) : Reading String :=
  match stringBytes text rest [] rest with
  | .error fault => .error fault
  | .ok (bytes, rest) =>
    match Utf8.decode? bytes with
    | some s => .ok (s, rest)
    | none =>
      .error (.before text rest (bytes.length - Utf8.validLength bytes) .badCharacter)

/-! ## Numbers -/

/-- The cause of a literal that breaks off. -/
def numberCause : Number.Break → Cause
  | .ended => .endInValue
  | .malformed => .badNumber

/-- The fault of a literal that breaks off. -/
def numberFault (text : Bytes) (stop : Number.Stop) : Fault :=
  if stop.looked then .next text stop.rest (numberCause stop.reason)
  else .here text stop.rest (numberCause stop.reason)

/-- Reads what follows the sign of a number. -/
def number (text : Bytes) (negative : Bool) (rest : Bytes) : Reading Number :=
  match Number.scanUnsigned negative rest with
  | .error stop => .error (numberFault text stop)
  | .ok result => .ok result

/-- The number that a string holds. Its faults are placed within the string, and anything that stands
before or after the literal is a fault of the number. -/
def numberText (bytes : Bytes) : Except Fault Number :=
  match bytes with
  | [] => .error (.next bytes [] .endInValue)
  | b :: rest =>
    if b = Ascii.minus || Ascii.isDigit b then
      let scanned :=
        if b = Ascii.minus then Number.scanUnsigned true rest
        else Number.scanUnsigned false bytes
      match scanned with
      | .ok (n, []) => .ok n
      | .ok (_, extra :: more) => .error (.next bytes (extra :: more) .badNumber)
      | .error stop =>
        match stop.rest with
        | [] => .error (numberFault bytes stop)
        | extra :: more => .error (.next bytes (extra :: more) .badNumber)
    else .error (.next bytes bytes .badNumber)

/-! ## The written form of a number -/

/-- The name that marks an object as the written form of a number, when it is the first one. -/
def numberMark : String := "$serde_json::private::Number"

/-- The least magnitude that no natural number of 64 bits has. -/
def naturalLimit : Nat := 0x10000000000000000

/-- The greatest magnitude of a negative integer of 64 bits. -/
def integerLimit : Nat := 0x8000000000000000

/-- The kind of a number that stands where the text of a number must stand: an integer that fits 64
bits, signed if it is negative, or any other number. A negative zero is no integer. -/
def foundNumber (n : Number) : Found :=
  let magnitude := Number.valueOf n.integer
  if !n.fraction.isEmpty || n.exponent.isSome then .number
  else if n.negative then
    if magnitude = 0 || integerLimit < magnitude then .number else .integer true magnitude
  else if magnitude < naturalLimit then .integer false magnitude
  else .number

/-- What a byte that is not white space starts. -/
inductive Start where
  | null
  | yes
  | no
  /-- A negative number. -/
  | minus
  /-- Any other number. -/
  | digit
  | string
  | array
  | object
  | none
  deriving DecidableEq, Repr

/-- What the byte `b` starts. -/
def Start.of (b : UInt8) : Start :=
  if b = Ascii.byte 'n' then .null
  else if b = Ascii.byte 't' then .yes
  else if b = Ascii.byte 'f' then .no
  else if b = Ascii.minus then .minus
  else if Ascii.isDigit b then .digit
  else if b = Ascii.quote then .string
  else if b = Ascii.openBracket then .array
  else if b = Ascii.openBrace then .object
  else .none

/-- The bytes after the first letter of `null`. -/
def nullTail : Bytes := Ascii.bytes "ull"
/-- The bytes after the first letter of `true`. -/
def trueTail : Bytes := Ascii.bytes "rue"
/-- The bytes after the first letter of `false`. -/
def falseTail : Bytes := Ascii.bytes "alse"

/-- The fault of reading a value that stands where the text of a number must stand: the fault of the
value itself, or the kind of value it is, shown after what was read of it. -/
def misplaced {α : Type} (text : Bytes) (found : α → Found) : Reading α → Fault
  | .error fault => fault
  | .ok (a, rest) => .here text rest (.notNumberText (found a))

/-- Reads the rest of a word that stands for `a`. -/
def wordFor {α : Type} (a : α) (text tail rest : Bytes) : Reading α :=
  match word text tail rest with
  | .error fault => .error fault
  | .ok rest => .ok (a, rest)

/-- Reads the value under `numberMark`: a string that holds a number literal. -/
def markedNumber (text rest : Bytes) : Reading Number :=
  match skipBlank rest with
  | [] => .error (.next text [] .endInValue)
  | b :: rest =>
    match Start.of b with
    | .string =>
      match string text rest with
      | .error fault => .error fault
      | .ok (s, rest) =>
        match numberText (Utf8.encode s) with
        | .error fault => .error fault
        | .ok n => .ok (n, rest)
    | .null => .error (misplaced text id (wordFor .null text nullTail rest))
    | .yes => .error (misplaced text id (wordFor (.bool true) text trueTail rest))
    | .no => .error (misplaced text id (wordFor (.bool false) text falseTail rest))
    | .minus => .error (misplaced text foundNumber (number text true rest))
    | .digit => .error (misplaced text foundNumber (number text false (b :: rest)))
    | .array => .error (misplaced text id (.ok (.array, b :: rest)))
    | .object => .error (misplaced text id (.ok (.object, b :: rest)))
    | .none => .error (.next text (b :: rest) .noValue)

/-- Reads the colon after a name. -/
def colon (text rest : Bytes) : Except Fault Bytes :=
  match skipBlank rest with
  | [] => .error (.next text [] .endInObject)
  | b :: rest =>
    if b = Ascii.colon then .ok rest else .error (.next text (b :: rest) .noColon)

/-- Reads the end of an object that is the written form of a number. -/
def markedEnd (text rest : Bytes) : Except Fault Bytes :=
  match skipBlank rest with
  | [] => .error (.next text [] .endInObject)
  | b :: rest =>
    if b = Ascii.closeBrace then .ok rest
    else if b = Ascii.comma then .error (.next text (b :: rest) .trailingComma)
    else .error (.next text (b :: rest) .trailingText)

/-- Reads what follows `numberMark` in an object. -/
def marked (text rest : Bytes) : Reading Document :=
  match colon text rest with
  | .error fault => .error fault
  | .ok rest =>
    match markedNumber text rest with
    | .error fault => .error fault
    | .ok (n, rest) =>
      match markedEnd text rest with
      | .error fault => .error fault
      | .ok rest => .ok (.number n, rest)

/-! ## Values -/

/-- Finds the name after a comma. -/
def nextName (text rest : Bytes) : Reading String :=
  match skipBlank rest with
  | [] => .error (.next text [] .endInValue)
  | b :: rest =>
    if b = Ascii.quote then string text rest
    else if b = Ascii.closeBrace then .error (.next text (b :: rest) .trailingComma)
    else .error (.next text (b :: rest) .nameNotString)

mutual

/-- Reads a value with at most `depth` arrays and objects open in it. -/
def value (text : Bytes) : Nat → Nat → Bytes → Reading Document
  | 0, _, rest => .error (.here text rest .tooDeep)
  | steps + 1, depth, rest =>
    match skipBlank rest with
    | [] => .error (.next text [] .endInValue)
    | b :: rest =>
      match Start.of b with
      | .null => wordFor .null text nullTail rest
      | .yes => wordFor (.bool true) text trueTail rest
      | .no => wordFor (.bool false) text falseTail rest
      | .minus =>
        match number text true rest with
        | .error fault => .error fault
        | .ok (n, rest) => .ok (.number n, rest)
      | .digit =>
        match number text false (b :: rest) with
        | .error fault => .error fault
        | .ok (n, rest) => .ok (.number n, rest)
      | .string =>
        match string text rest with
        | .error fault => .error fault
        | .ok (s, rest) => .ok (.string s, rest)
      | .array =>
        match depth with
        | 0 => .error (.next text (b :: rest) .tooDeep)
        | depth + 1 => array text steps depth rest
      | .object =>
        match depth with
        | 0 => .error (.next text (b :: rest) .tooDeep)
        | depth + 1 => object text steps depth rest
      | .none => .error (.next text (b :: rest) .noValue)
termination_by structural steps => steps

/-- Reads what follows the opening bracket of an array. -/
def array (text : Bytes) : Nat → Nat → Bytes → Reading Document
  | 0, _, rest => .error (.here text rest .tooDeep)
  | steps + 1, depth, rest =>
    match skipBlank rest with
    | [] => .error (.next text [] .endInArray)
    | b :: rest =>
      if b = Ascii.closeBracket then .ok (.array [], rest)
      else
        match value text steps depth (b :: rest) with
        | .error fault => .error fault
        | .ok (item, rest) => items text steps depth [item] rest
termination_by structural steps => steps

/-- Reads what follows an item of an array; `read` holds the items so far, the last first. -/
def items (text : Bytes) : Nat → Nat → List Document → Bytes → Reading Document
  | 0, _, _, rest => .error (.here text rest .tooDeep)
  | steps + 1, depth, read, rest =>
    match skipBlank rest with
    | [] => .error (.next text [] .endInArray)
    | b :: rest =>
      if b = Ascii.closeBracket then .ok (.array read.reverse, rest)
      else if b = Ascii.comma then
        match skipBlank rest with
        | [] => .error (.next text [] .endInValue)
        | c :: rest =>
          if c = Ascii.closeBracket then .error (.next text (c :: rest) .trailingComma)
          else
            match value text steps depth (c :: rest) with
            | .error fault => .error fault
            | .ok (item, rest) => items text steps depth (item :: read) rest
      else .error (.next text (b :: rest) .noItemEnd)
termination_by structural steps => steps

/-- Reads what follows the opening bracket of an object. -/
def object (text : Bytes) : Nat → Nat → Bytes → Reading Document
  | 0, _, rest => .error (.here text rest .tooDeep)
  | steps + 1, depth, rest =>
    match skipBlank rest with
    | [] => .error (.next text [] .endInObject)
    | b :: rest =>
      if b = Ascii.closeBrace then .ok (.object [], rest)
      else if b = Ascii.quote then
        match string text rest with
        | .error fault => .error fault
        | .ok (name, rest) =>
          if name = numberMark then marked text rest
          else
            match colon text rest with
            | .error fault => .error fault
            | .ok rest =>
              match value text steps depth rest with
              | .error fault => .error fault
              | .ok (item, rest) => members text steps depth [(name, item)] rest
      else .error (.next text (b :: rest) .nameNotString)
termination_by structural steps => steps

/-- Reads what follows a member of an object; `read` holds the members so far, in order. -/
def members (text : Bytes) : Nat → Nat → Members → Bytes → Reading Document
  | 0, _, _, rest => .error (.here text rest .tooDeep)
  | steps + 1, depth, read, rest =>
    match skipBlank rest with
    | [] => .error (.next text [] .endInObject)
    | b :: rest =>
      if b = Ascii.closeBrace then .ok (.object read, rest)
      else if b = Ascii.comma then
        match nextName text rest with
        | .error fault => .error fault
        | .ok (name, rest) =>
          match colon text rest with
          | .error fault => .error fault
          | .ok rest =>
            match value text steps depth rest with
            | .error fault => .error fault
            | .ok (item, rest) => members text steps depth (read.insert name item) rest
      else .error (.next text (b :: rest) .noMemberEnd)
termination_by structural steps => steps

end

end Reader

namespace Document

/-- How many arrays and objects may be open at once. -/
def depthLimit : Nat := 127

/-- The document of a text, or the first fault of a text that is no document. -/
def read (text : Bytes) : Except Fault Document :=
  match Reader.value text (2 * text.length + 2) depthLimit text with
  | .error fault => .error fault
  | .ok (document, rest) =>
    match Reader.skipBlank rest with
    | [] => .ok document
    | b :: rest => .error (.next text (b :: rest) .trailingText)

end Document
end Relabel
