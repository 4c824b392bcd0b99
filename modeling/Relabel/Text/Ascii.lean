/-!
# Bytes and the ASCII characters among them

Files, paths and the texts of documents are runs of bytes: a file may hold anything, and a file name
need not be text at all. This module fixes the type of such a run and names the ASCII bytes that the
grammar of documents and the grammar of paths speak about. Nothing here decodes: characters beyond
ASCII are the business of `Relabel.Text.Utf8`.
-/

namespace Relabel

/-- A run of bytes, the first byte first. -/
abbrev Bytes := List UInt8

namespace Ascii

/-! ## Named bytes -/

/-- Character tabulation. -/
def tab : UInt8 := 0x09
/-- Line feed, which ends a line. -/
def lineFeed : UInt8 := 0x0a
/-- Carriage return. -/
def carriageReturn : UInt8 := 0x0d
/-- Space. -/
def space : UInt8 := 0x20
/-- Quotation mark. -/
def quote : UInt8 := 0x22
/-- Plus sign. -/
def plus : UInt8 := 0x2b
/-- Comma. -/
def comma : UInt8 := 0x2c
/-- Hyphen-minus. -/
def minus : UInt8 := 0x2d
/-- Full stop. -/
def dot : UInt8 := 0x2e
/-- Solidus, which separates the names of a path. -/
def slash : UInt8 := 0x2f
/-- Colon. -/
def colon : UInt8 := 0x3a
/-- Left square bracket. -/
def openBracket : UInt8 := 0x5b
/-- Reverse solidus, which opens an escape. -/
def backslash : UInt8 := 0x5c
/-- Right square bracket. -/
def closeBracket : UInt8 := 0x5d
/-- Left curly bracket. -/
def openBrace : UInt8 := 0x7b
/-- Right curly bracket. -/
def closeBrace : UInt8 := 0x7d

/-! ## Letters and digits -/

/-- The byte of an ASCII character; of any other character, its code modulo 256. -/
def byte (c : Char) : UInt8 := c.toNat.toUInt8

/-- The bytes of a text that holds ASCII characters alone. -/
def bytes (text : String) : Bytes := text.toList.map byte

/-- Whether a byte is one of the ten digits. -/
def isDigit (b : UInt8) : Bool := 0x30 ≤ b && b ≤ 0x39

/-- The value of a hexadecimal digit, in either letter case. -/
def hexValue? (b : UInt8) : Option Nat :=
  if 0x30 ≤ b && b ≤ 0x39 then some (b.toNat - 0x30)
  else if 0x61 ≤ b && b ≤ 0x66 then some (b.toNat - 0x61 + 10)
  else if 0x41 ≤ b && b ≤ 0x46 then some (b.toNat - 0x41 + 10)
  else none

/-- The lower-case hexadecimal digit of a value below sixteen. -/
def hexDigit (n : Nat) : UInt8 :=
  if n < 10 then (0x30 + n).toUInt8 else (0x57 + n).toUInt8

end Ascii

end Relabel
