import Relabel.Text.Ascii

/-!
# UTF-8

The encoding of characters as bytes, and three ways of reading it back: all or nothing
(`Utf8.decode?`), how far the bytes are sound (`Utf8.validLength`), and with replacement characters
where they are not (`Utf8.decodeLossy`).

Reading is a machine that takes one byte at a time. Between characters it needs a first byte, which
says how many bytes follow and, for four of them, narrows the range of the byte right after it; that
narrowing is all there is to the rules against overlong forms, surrogates and codes above U+10FFFF.
Inside a character the machine carries a `Pending`: how many bytes it still owes, the range the next
one must lie in, and the code read so far.

The lossy reading replaces each *maximal part* of a broken character by one U+FFFD: the bytes up to
the first one that cannot continue the character count as one mistake, and that byte is read afresh.
-/

namespace Relabel
namespace Utf8

/-! ## Encoding -/

/-- The bytes of the character with a given code. -/
def encodeCode (n : Nat) : Bytes :=
  if n < 0x80 then [n.toUInt8]
  else if n < 0x800 then [(0xc0 + n / 64).toUInt8, (0x80 + n % 64).toUInt8]
  else if n < 0x10000 then
    [(0xe0 + n / 4096).toUInt8, (0x80 + n / 64 % 64).toUInt8, (0x80 + n % 64).toUInt8]
  else
    [(0xf0 + n / 262144).toUInt8, (0x80 + n / 4096 % 64).toUInt8, (0x80 + n / 64 % 64).toUInt8,
      (0x80 + n % 64).toUInt8]

/-- The bytes of a character. -/
def encodeChar (c : Char) : Bytes := encodeCode c.toNat

/-- The bytes of a run of characters. -/
def encodeChars (cs : List Char) : Bytes := cs.flatMap encodeChar

/-- The bytes of a text. -/
def encode (text : String) : Bytes := encodeChars text.toList

/-! ## The reading machine -/

/-- A character whose first byte has been read: the bytes still owed, the range of the next of them,
and the code so far. -/
structure Pending where
  /-- Bytes still owed, the next one included. -/
  owed : Nat
  /-- The least next byte. -/
  low : UInt8
  /-- The greatest next byte. -/
  high : UInt8
  /-- The bits of the code read so far. -/
  code : Nat
  deriving DecidableEq, Repr

/-- What a first byte opens. -/
inductive Opening where
  /-- The byte is a character by itself. -/
  | whole (c : Char)
  /-- The byte opens a longer character. -/
  | part (p : Pending)
  /-- No character starts with the byte. -/
  | broken
  deriving DecidableEq, Repr

/-- What the byte `b` opens between characters. -/
def opening (b : UInt8) : Opening :=
  if b < 0x80 then .whole (Char.ofNat b.toNat)
  else if b < 0xc2 then .broken
  else if b < 0xe0 then .part ⟨1, 0x80, 0xbf, b.toNat - 0xc0⟩
  else if b = 0xe0 then .part ⟨2, 0xa0, 0xbf, 0⟩
  else if b = 0xed then .part ⟨2, 0x80, 0x9f, 13⟩
  else if b < 0xf0 then .part ⟨2, 0x80, 0xbf, b.toNat - 0xe0⟩
  else if b = 0xf0 then .part ⟨3, 0x90, 0xbf, 0⟩
  else if b < 0xf4 then .part ⟨3, 0x80, 0xbf, b.toNat - 0xf0⟩
  else if b = 0xf4 then .part ⟨3, 0x80, 0x8f, 4⟩
  else .broken

/-- Whether `b` may be the next byte of a pending character. -/
def Pending.admits (p : Pending) (b : UInt8) : Bool := p.low ≤ b && b ≤ p.high

/-- The code of a pending character once `b` has been added to it. -/
def Pending.codeWith (p : Pending) (b : UInt8) : Nat := p.code * 64 + (b.toNat - 0x80)

/-- A pending character after `b`, which is not its last byte. -/
def Pending.next (p : Pending) (b : UInt8) : Pending := ⟨p.owed - 1, 0x80, 0xbf, p.codeWith b⟩

/-! ## All or nothing -/

/-- Reads on from a state of the machine; `read` holds the characters read so far, the last first. -/
def decodeFrom (state : Option Pending) (read : List Char) : Bytes → Option (List Char)
  | [] => if state.isNone then some read.reverse else none
  | b :: rest =>
    match state with
    | none =>
      match opening b with
      | .whole c => decodeFrom none (c :: read) rest
      | .part p => decodeFrom (some p) read rest
      | .broken => none
    | some p =>
      if p.admits b then
        if p.owed = 1 then decodeFrom none (Char.ofNat (p.codeWith b) :: read) rest
        else decodeFrom (some (p.next b)) read rest
      else none

/-- The characters of sound UTF-8, and nothing for anything else. -/
def decodeChars? (bytes : Bytes) : Option (List Char) := decodeFrom none [] bytes

/-- The text of sound UTF-8, and nothing for anything else. -/
def decode? (bytes : Bytes) : Option String := (decodeChars? bytes).map String.ofList

/-- Whether bytes are sound UTF-8. -/
def isValid (bytes : Bytes) : Bool := (decodeChars? bytes).isSome

/-! ## How far the bytes are sound -/

/-- Reads on from a state of the machine, `whole` bytes of whole characters and then `inside` bytes
of a pending one having been read. -/
def validLengthFrom (state : Option Pending) (whole inside : Nat) : Bytes → Nat
  | [] => whole
  | b :: rest =>
    match state with
    | none =>
      match opening b with
      | .whole _ => validLengthFrom none (whole + 1) 0 rest
      | .part p => validLengthFrom (some p) whole 1 rest
      | .broken => whole
    | some p =>
      if p.admits b then
        if p.owed = 1 then validLengthFrom none (whole + inside + 1) 0 rest
        else validLengthFrom (some (p.next b)) whole (inside + 1) rest
      else whole

/-- The length of the longest run of whole characters at the front of the bytes. -/
def validLength (bytes : Bytes) : Nat := validLengthFrom none 0 0 bytes

/-! ## Reading with replacement -/

/-- The character that stands for bytes that are no character. -/
def replacement : Char := '\ufffd'

/-- One byte between characters: the characters read so far and the state after it. -/
def reopen (read : List Char) (b : UInt8) : List Char × Option Pending :=
  match opening b with
  | .whole c => (c :: read, none)
  | .part p => (read, some p)
  | .broken => (replacement :: read, none)

/-- Reads on from a state of the machine, each maximal broken part becoming one replacement
character; `read` holds the characters so far, the last first. -/
def decodeLossyFrom (state : Option Pending) (read : List Char) : Bytes → List Char
  | [] => (if state.isNone then read else replacement :: read).reverse
  | b :: rest =>
    match state with
    | none => decodeLossyFrom (reopen read b).2 (reopen read b).1 rest
    | some p =>
      if p.admits b then
        if p.owed = 1 then decodeLossyFrom none (Char.ofNat (p.codeWith b) :: read) rest
        else decodeLossyFrom (some (p.next b)) read rest
      else decodeLossyFrom (reopen (replacement :: read) b).2 (reopen (replacement :: read) b).1 rest

/-- The text of the bytes, with a replacement character for each maximal part that is not UTF-8. -/
def decodeLossy (bytes : Bytes) : String := String.ofList (decodeLossyFrom none [] bytes)

end Utf8
end Relabel
