import Relabel.Json.Layout

/-!
# Documents on one line

Messages for other programs are documents written on one line without any white space between tokens.
Characters beyond ASCII stand as they are; control characters are escaped inside strings, so the line
holds no line feed whatever the document is.
-/

namespace Relabel
namespace Compact

/-- A member's name and the colon. -/
def nameLead (name : String) : Bytes := Escape.quoted Escape.raw name ++ [Ascii.colon]

mutual

/-- The bytes of a document without white space between tokens. -/
def document : Document → Bytes
  | .null => Layout.nullWord
  | .bool value => Layout.boolWord value
  | .number literal => literal.literal
  | .string text => Escape.quoted Escape.raw text
  | .array [] => [Ascii.openBracket, Ascii.closeBracket]
  | .array (item :: rest) =>
    Ascii.openBracket :: document item ++ moreItems rest ++ [Ascii.closeBracket]
  | .object [] => [Ascii.openBrace, Ascii.closeBrace]
  | .object ((name, item) :: rest) =>
    Ascii.openBrace :: nameLead name ++ document item ++ moreMembers rest ++ [Ascii.closeBrace]

/-- The items after the first one, each behind a comma. -/
def moreItems : List Document → Bytes
  | [] => []
  | item :: rest => Ascii.comma :: document item ++ moreItems rest

/-- The members after the first one, each behind a comma. -/
def moreMembers : List (String × Document) → Bytes
  | [] => []
  | (name, item) :: rest =>
    Ascii.comma :: nameLead name ++ document item ++ moreMembers rest

end

end Compact

/-- The bytes of a document on one line. -/
def Document.compact (document : Document) : Bytes := Compact.document document

end Relabel
