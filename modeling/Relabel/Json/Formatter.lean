import Relabel.Json.Fragment
import Relabel.Json.Layout

/-!
# Formatters

Two parties write a document. A serializer goes through it from its first token to its last, and says what comes next:
an array begins, an item begins, a string has a fragment, the item has ended. A formatter writes what there is to be
written at each of these callbacks. It has a state of its own, in which callbacks leave word for later ones.

There are three formatters. `Formatter.plain` writes tokens without anything between them, and keeps nothing in mind.
`Formatter.indented` puts each item on a line of its own; it keeps in mind how many arrays and objects are open, and in
**one flag for all of them** whether the array or object at hand has something in it. `Formatter.ascii` is wrapped
around another formatter, to which it hands on what happens to arrays and objects; fragments of strings it writes
itself, in ASCII. A callback that it does not hand on is the plain one, whatever the formatter inside would do.

A callback can fail, by cutting a fragment inside a character or by closing what is not open. Then nothing is written.
-/

namespace Relabel

/-! ## Callbacks -/

/-- A text that is being written. -/
structure Writing (σ : Type) where
  /-- What the formatter has in mind. -/
  state : σ
  /-- What has been written. -/
  bytes : Bytes
  deriving DecidableEq, Repr

/-- What a formatter does at one point of a text, if it does not fail. -/
abbrev Callback (σ : Type) := Writing σ → Option (Writing σ)

/-- Writes bytes. -/
def Callback.write {σ : Type} (bytes : Bytes) : Callback σ := fun now =>
  some { now with bytes := now.bytes ++ bytes }

/-- Writes nothing. -/
def Callback.pass {σ : Type} : Callback σ := some

open Callback (write pass)

/-! ## Formatters -/

/-- What is written at each point of a text. Where a formatter says nothing else, there is nothing between tokens. -/
structure Formatter (σ : Type) where
  null : Callback σ := write Layout.nullWord
  bool : Bool → Callback σ := fun value => write (Layout.boolWord value)
  /-- A number, by its literal. -/
  number : Bytes → Callback σ := write
  beginString : Callback σ := write [Ascii.quote]
  /-- Some characters of a string that nothing parts. -/
  fragment : String → Callback σ := fun text => write (Utf8.encode text)
  /-- A character that parts fragments. -/
  escape : Char → Callback σ := fun c => write (Escape.asciiChar c)
  endString : Callback σ := write [Ascii.quote]
  beginArray : Callback σ := write [Ascii.openBracket]
  /-- An item begins, the first one of its array or another one. -/
  beginItem : Bool → Callback σ := fun first => write (if first then [] else [Ascii.comma])
  endItem : Callback σ := pass
  endArray : Callback σ := write [Ascii.closeBracket]
  beginObject : Callback σ := write [Ascii.openBrace]
  /-- The name of a member begins, the first one of its object or another one. -/
  beginName : Bool → Callback σ := fun first => write (if first then [] else [Ascii.comma])
  /-- The name of a member ends. -/
  endName : Callback σ := pass
  /-- The value of a member begins. -/
  beginValue : Callback σ := write [Ascii.colon]
  endValue : Callback σ := pass
  endObject : Callback σ := write [Ascii.closeBrace]

/-- What a formatter of indented texts has in mind. -/
structure Indentation where
  /-- How many arrays and objects are open. -/
  depth : Nat
  /-- Whether the array or object at hand has something in it. -/
  filled : Bool
  deriving DecidableEq, Repr

namespace Indentation

/-- The indentation at a depth, in steps. -/
def spaces (step : Bytes) (depth : Nat) : Bytes := (List.replicate depth step).flatten

/-- An array or object begins, and has nothing in it yet. -/
def opens (bracket : UInt8) : Callback Indentation := fun now =>
  some ⟨⟨now.state.depth + 1, false⟩, now.bytes ++ [bracket]⟩

/-- An array or object ends, on a line of its own if it has something in it. -/
def closes (step : Bytes) (bracket : UInt8) : Callback Indentation := fun now =>
  match now.state.depth with
  | 0 => none
  | depth + 1 =>
    let line := if now.state.filled then Ascii.lineFeed :: spaces step depth else []
    some ⟨{ now.state with depth := depth }, now.bytes ++ line ++ [bracket]⟩

/-- An item or a member begins on a line of its own. -/
def begins (step : Bytes) (first : Bool) : Callback Indentation := fun now =>
  write ((if first then [Ascii.lineFeed] else [Ascii.comma, Ascii.lineFeed]) ++ spaces step now.state.depth) now

/-- An item or a member ends, so that there is something in the array or object at hand. -/
def fills : Callback Indentation := fun now => some { now with state.filled := true }

end Indentation

namespace Formatter

variable {σ : Type}

/-- The formatter of texts with nothing between tokens. -/
def plain : Formatter σ := {}

open Indentation in
/-- The formatter of indented texts, `step` being the indentation of one array or object. -/
def indented (step : Bytes) : Formatter Indentation where
  beginArray := opens Ascii.openBracket
  beginItem := begins step
  endItem := fills
  endArray := closes step Ascii.closeBracket
  beginObject := opens Ascii.openBrace
  beginName := begins step
  beginValue := write [Ascii.colon, Ascii.space]
  endValue := fills
  endObject := closes step Ascii.closeBrace

/-- The formatter of texts in ASCII around another one. -/
def ascii (inner : Formatter σ) : Formatter σ where
  beginArray := inner.beginArray
  endArray := inner.endArray
  beginItem := inner.beginItem
  endItem := inner.endItem
  beginObject := inner.beginObject
  endObject := inner.endObject
  beginName := inner.beginName
  beginValue := inner.beginValue
  endValue := inner.endValue
  fragment text := fun now => do write (← Fragment.write? text) now

end Formatter

/-! ## The serializer -/

namespace Serializer

variable {σ : Type} (formatter : Formatter σ)

/-- A run of characters that nothing parts is one fragment, and none if there are no characters. -/
def run (characters : List Char) : Callback σ :=
  if characters.isEmpty then pass else formatter.fragment (String.ofList characters)

/-- The characters of a string behind some that nothing parts, and that have not been written. -/
def characters (waiting : List Char) : List Char → Callback σ
  | [] => run formatter waiting
  | c :: rest =>
    if Fragment.parts c then run formatter waiting >=> formatter.escape c >=> characters [] rest
    else characters (waiting ++ [c]) rest

/-- A string. -/
def string (text : String) : Callback σ :=
  formatter.beginString >=> characters formatter [] text.toList >=> formatter.endString

mutual

/-- A document, token by token. -/
def document : Document → Callback σ
  | .null => formatter.null
  | .bool value => formatter.bool value
  | .number literal => formatter.number literal.literal
  | .string text => string formatter text
  | .array items => formatter.beginArray >=> array true items >=> formatter.endArray
  | .object members => formatter.beginObject >=> object true members >=> formatter.endObject

/-- The items of an array, from the first one on or behind others. -/
def array (first : Bool) : List Document → Callback σ
  | [] => pass
  | item :: rest =>
    formatter.beginItem first >=> document item >=> formatter.endItem >=> array false rest

/-- The members of an object, from the first one on or behind others. -/
def object (first : Bool) : List (String × Document) → Callback σ
  | [] => pass
  | (name, item) :: rest =>
    formatter.beginName first >=> string formatter name >=> formatter.endName >=>
      formatter.beginValue >=> document item >=> formatter.endValue >=> object false rest

end

end Serializer

/-! ## Texts -/

/-- A string between quotation marks, its fragments in ASCII. -/
def Fragment.quoted? (text : String) : Option Bytes :=
  (Serializer.string (.ascii .plain) text ⟨(), []⟩).map Writing.bytes

namespace Document

/-- A document as it is written into a file: indented, in ASCII, from a fresh formatter on. -/
def render? (document : Document) : Option Bytes :=
  let step := List.replicate Layout.indentWidth Ascii.space
  (Serializer.document (.ascii (.indented step)) document ⟨⟨0, false⟩, []⟩).map Writing.bytes

/-- A document as it is written into a message. -/
def line? (document : Document) : Option Bytes :=
  (Serializer.document .plain document ⟨(), []⟩).map Writing.bytes

end Document
end Relabel
