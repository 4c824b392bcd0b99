import Relabel.Pattern.Syntax
import Relabel.Text.CharSet

/-!
# The smallest parts of a pattern

How the characters of a pattern, and those behind a backslash, are read. Where blanks and comments are
skipped, they may stand between the digits of a code, too.

A code in braces, a class by property and the repetition with counts are not read: they need a closing brace
or tables of properties, and there are neither.
-/

namespace Relabel
namespace Pattern

/-- The text behind blanks and comments; a comment runs from a hash to the end of the line. -/
def skipFrom (inComment : Bool) : List Char → List Char
  | [] => []
  | c :: rest =>
    if inComment then skipFrom (c != '\n') rest
    else if CharSet.blank.contains c then skipFrom false rest
    else if c = '#' then skipFrom true rest
    else c :: rest

/-- The text behind blanks and comments, where these are skipped. -/
def skip (extended : Bool) (text : List Char) : List Char :=
  if extended then skipFrom false text else text

/-- The characters that mean something in a pattern. -/
def isMeta (c : Char) : Bool := "\\.+*?()|[]\x7b\x7d^$#&-~".toList.contains c

/-- Whether a character stands for itself behind a backslash. -/
def isEscapable (c : Char) : Bool :=
  isMeta c || (c.toNat ≤ 0x7f && !c.isAlphanum && c != '<' && c != '>')

/-- The value of a hexadecimal digit. -/
def hexValue? (c : Char) : Option Nat :=
  if '0' ≤ c && c ≤ '9' then some (c.toNat - '0'.toNat)
  else if 'a' ≤ c && c ≤ 'f' then some (c.toNat - 'a'.toNat + 10)
  else if 'A' ≤ c && c ≤ 'F' then some (c.toNat - 'A'.toNat + 10)
  else none

/-- The value of some hexadecimal digits, `value` being that of those before them. -/
def hexDigits (extended : Bool) (value : Nat) : Nat → List Char → Option (Nat × List Char)
  | 0, text => some (value, text)
  | count + 1, c :: rest =>
    match hexValue? c with
    | some digit => hexDigits extended (value * 16 + digit) count (skip extended rest)
    | none => none
  | _ + 1, [] => none

/-- The character with a code of some digits. -/
def coded (extended isByte : Bool) (count : Nat) (text : List Char) : Option (Atom × List Char) :=
  match hexDigits extended 0 count (skip extended text) with
  | some (code, rest) =>
    if code.isValidChar then some (.letter ⟨Char.ofNat code, isByte⟩, rest) else none
  | none => none

/-- A character that stands for itself, and what follows it. -/
def verbatim (c : Char) (rest : List Char) : Option (Atom × List Char) :=
  some (.letter ⟨c, false⟩, rest)

/-- What stands behind a backslash. -/
def escaped (extended : Bool) : List Char → Option (Atom × List Char)
  | [] => none
  | c :: rest =>
    match c with
    | 'x' => coded extended true 2 rest
    | 'u' => coded extended false 4 rest
    | 'U' => coded extended false 8 rest
    | 'd' | 's' | 'w' => some (.kind false, rest)
    | 'D' | 'S' | 'W' => some (.kind true, rest)
    | 'a' => verbatim '\x07' rest
    | 'f' => verbatim '\x0c' rest
    | 't' => verbatim '\t' rest
    | 'n' => verbatim '\n' rest
    | 'r' => verbatim '\r' rest
    | 'v' => verbatim '\x0b' rest
    | 'A' | 'z' => some (.anchor, rest)
    | 'b' => if rest.head? = some '\x7b' then none else some (.wordEnd, rest)
    | 'B' | '<' | '>' => some (.wordEnd, rest)
    | c => if isEscapable c then verbatim c rest else none

/-- One of the smallest parts, outside a class. -/
def readAtom (extended : Bool) : List Char → Option (Atom × List Char)
  | [] => none
  | '\\' :: rest => escaped extended rest
  | '.' :: rest => some (.dot, rest)
  | '^' :: rest => some (.anchor, rest)
  | '$' :: rest => some (.anchor, rest)
  | c :: rest => verbatim c rest

end Pattern
end Relabel
