import Relabel.Text.Ascii
import Relabel.Text.Unprintable

/-!
# Quoted texts

A text in double quotes, for people: quotes and backslashes get a backslash before them, four control
characters have letters, and any other character without a face of its own is shown by its code in
hexadecimal. A list of texts stands in square brackets.
-/

namespace Relabel
namespace Quoted

/-- The lower-case hexadecimal digits of a code, without leading zeros. -/
def hex (code : Nat) : List Char := Nat.toDigits 16 code

/-- A character inside quotes. -/
def char (c : Char) : List Char :=
  if c = '\x00' then ['\\', '0']
  else if c = '\t' then ['\\', 't']
  else if c = '\n' then ['\\', 'n']
  else if c = '\r' then ['\\', 'r']
  else if c = '\\' || c = '\x22' then ['\\', c]
  else if CharSet.unprintable.contains c then ['\\', 'u', '\x7b'] ++ hex c.toNat ++ ['\x7d']
  else [c]

/-- A text in quotes. -/
def text (s : String) : String :=
  String.ofList ('\x22' :: s.toList.flatMap char ++ ['\x22'])

/-- Texts in quotes, between square brackets. -/
def list (texts : List String) : String :=
  "[" ++ String.intercalate ", " (texts.map text) ++ "]"

end Quoted
end Relabel
