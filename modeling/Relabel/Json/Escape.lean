import Relabel.Text.Utf8

/-!
# Strings as they are written

A string is written between quotation marks, character by character. Some ASCII characters must be
escaped: the quotation mark, the backslash and the control characters, five of which have a letter of
their own and the others the form `\u00xx`. A character beyond ASCII can be written in two ways: as it
is (`Escape.raw`) or as the `\uxxxx` escapes of its UTF-16 code units (`Escape.ascii`), one up to U+FFFF
and a surrogate pair above. The hexadecimal digits of an escape are lower case.
-/

namespace Relabel
namespace Escape

/-! ## Escapes -/

/-- The UTF-16 code units of a character: one up to U+FFFF, a surrogate pair above. -/
def codeUnits (c : Char) : List Nat :=
  if c.toNat < 0x10000 then [c.toNat]
  else [0xd800 + (c.toNat - 0x10000) / 0x400, 0xdc00 + (c.toNat - 0x10000) % 0x400]

/-- The `\uxxxx` escape of a code unit. -/
def unitEscape (unit : Nat) : Bytes :=
  [Ascii.backslash, Ascii.byte 'u', Ascii.hexDigit (unit / 4096 % 16), Ascii.hexDigit (unit / 256 % 16),
    Ascii.hexDigit (unit / 16 % 16), Ascii.hexDigit (unit % 16)]

/-- A backslash and a letter. -/
def letterEscape (letter : Char) : Bytes := [Ascii.backslash, Ascii.byte letter]

/-- The bytes of an ASCII character inside a string. -/
def asciiChar (c : Char) : Bytes :=
  if c = '\x22' then letterEscape '\x22'
  else if c = '\\' then letterEscape '\\'
  else if c = '\x08' then letterEscape 'b'
  else if c = '\t' then letterEscape 't'
  else if c = '\n' then letterEscape 'n'
  else if c = '\x0c' then letterEscape 'f'
  else if c = '\r' then letterEscape 'r'
  else if c.toNat < 0x20 then unitEscape c.toNat
  else [Ascii.byte c]

/-! ## Two ways of writing a character -/

/-- A character inside a string of ASCII bytes. -/
def ascii (c : Char) : Bytes :=
  if c.toNat < 0x80 then asciiChar c else (codeUnits c).flatMap unitEscape

/-- A character inside a string of UTF-8 bytes. -/
def raw (c : Char) : Bytes :=
  if c.toNat < 0x80 then asciiChar c else Utf8.encodeChar c

/-- A string between quotation marks, each character written by `write`. -/
def quoted (write : Char → Bytes) (text : String) : Bytes :=
  Ascii.quote :: text.toList.flatMap write ++ [Ascii.quote]

end Escape
end Relabel
