import Relabel.Json.Document
import Relabel.Json.Escape

/-!
# The layout of a revised file

A document is laid out for people: one item or member a line, four spaces of indentation for each array
or object that is open, a colon and a space between a name and its value, and nothing after the last
bracket. An empty array or object stays on its line. All bytes are ASCII: a character beyond it is written
as escapes, so that the file reads the same under any encoding that extends ASCII.
-/

namespace Relabel
namespace Layout

/-- The bytes of the word `null`. -/
def nullWord : Bytes := Ascii.bytes "null"

/-- The bytes of a truth value. -/
def boolWord : Bool → Bytes
  | true => Ascii.bytes "true"
  | false => Ascii.bytes "false"

/-- The spaces of one step of indentation. -/
def indentWidth : Nat := 4

/-- A new line at a depth. -/
def newLine (depth : Nat) : Bytes :=
  Ascii.lineFeed :: List.replicate (indentWidth * depth) Ascii.space

/-- A member's name, the colon and the space. -/
def nameLead (name : String) : Bytes :=
  Escape.quoted Escape.ascii name ++ [Ascii.colon, Ascii.space]

mutual

/-- The bytes of a document that stands inside `depth` arrays and objects. -/
def document (depth : Nat) : Document → Bytes
  | .null => nullWord
  | .bool value => boolWord value
  | .number literal => literal.literal
  | .string text => Escape.quoted Escape.ascii text
  | .array [] => [Ascii.openBracket, Ascii.closeBracket]
  | .array (item :: rest) =>
    Ascii.openBracket :: newLine (depth + 1) ++ document (depth + 1) item ++
      moreItems (depth + 1) rest ++ newLine depth ++ [Ascii.closeBracket]
  | .object [] => [Ascii.openBrace, Ascii.closeBrace]
  | .object ((name, item) :: rest) =>
    Ascii.openBrace :: newLine (depth + 1) ++ nameLead name ++ document (depth + 1) item ++
      moreMembers (depth + 1) rest ++ newLine depth ++ [Ascii.closeBrace]

/-- The items after the first one, each behind a comma and on a line of its own. -/
def moreItems (depth : Nat) : List Document → Bytes
  | [] => []
  | item :: rest =>
    Ascii.comma :: newLine depth ++ document depth item ++ moreItems depth rest

/-- The members after the first one, each behind a comma and on a line of its own. -/
def moreMembers (depth : Nat) : List (String × Document) → Bytes
  | [] => []
  | (name, item) :: rest =>
    Ascii.comma :: newLine depth ++ nameLead name ++ document depth item ++ moreMembers depth rest

end

end Layout

/-- The bytes of a revised file that holds a document. -/
def Document.layout (document : Document) : Bytes := Layout.document 0 document

end Relabel
