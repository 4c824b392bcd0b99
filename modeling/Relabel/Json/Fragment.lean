import Relabel.Json.Escape

/-!
# Strings written in fragments

A string is written in fragments. A fragment is a run of characters none of which must be escaped in ASCII already;
between two fragments stands the escape of the character that parts them (`Fragment.parts`). Who cuts a string into
fragments is in `Relabel.Json.Formatter`; this module is about one fragment that is to be written in ASCII.

A fragment is written by a loop over its characters that stops at those beyond ASCII alone. There it copies all bytes
in front of the character that have not been copied yet, and the code units of the character follow as escapes. The
bytes behind the last of them are copied in the end. So the loop cuts the bytes of the fragment at offsets that it
counts itself, and **a cut inside a character is none**: `Fragment.slice?` has nothing for it, and nothing is written.
-/

namespace Relabel
namespace Fragment

/-! ## Cuts -/

/-- Whether a character begins at an offset, or the bytes end there. -/
def isBoundary (bytes : Bytes) (offset : Nat) : Bool :=
  match bytes[offset]? with
  | some b => b < 0x80 || 0xc0 ≤ b
  | none => offset = bytes.length

/-- The bytes from one offset to another one, if both are boundaries. -/
def slice? (bytes : Bytes) (start stop : Nat) : Option Bytes :=
  if start ≤ stop && isBoundary bytes start && isBoundary bytes stop then some ((bytes.take stop).drop start)
  else none

/-- Characters with the offsets at which they begin, the first of them at `offset`. -/
def indexed (offset : Nat) : List Char → List (Nat × Char)
  | [] => []
  | c :: rest => (offset, c) :: indexed (offset + (Utf8.encodeChar c).length) rest

/-! ## Fragments -/

/-- What is written at a time. -/
inductive Piece where
  /-- Bytes of the fragment as they stand. -/
  | copied (bytes : Bytes)
  /-- A code unit as an escape. -/
  | escaped (unit : Nat)
  deriving DecidableEq, Repr

/-- The bytes that are written. -/
def Piece.bytes : Piece → Bytes
  | .copied bytes => bytes
  | .escaped unit => Escape.unitEscape unit

/-- How far a fragment has been written. -/
structure Cursor where
  /-- The offset from which on nothing has been written. -/
  start : Nat
  /-- What has been written. -/
  written : List Piece
  deriving DecidableEq, Repr

/-- Goes on to the character at an offset, and over it if it is beyond ASCII. -/
def advance? (bytes : Bytes) (now : Cursor) (place : Nat × Char) : Option Cursor :=
  let (index, c) := place
  if c.toNat < 0x80 then some now
  else do
    let gap ← slice? bytes now.start index
    return ⟨index + (Utf8.encodeChar c).length,
      now.written ++ .copied gap :: (Escape.codeUnits c).map .escaped⟩

/-- The pieces in which a fragment is written. -/
def pieces? (fragment : String) : Option (List Piece) := do
  let bytes := Utf8.encode fragment
  let last ← (indexed 0 fragment.toList).foldlM (advance? bytes) ⟨0, []⟩
  let rest ← slice? bytes last.start bytes.length
  return last.written ++ [.copied rest]

/-- The bytes that are written for a fragment. -/
def write? (fragment : String) : Option Bytes := (pieces? fragment).map (·.flatMap Piece.bytes)

/-- Whether a character must be escaped even if it is ASCII, so that no fragment holds it. -/
def parts (c : Char) : Bool := c = '\x22' || c = '\\' || c.toNat < 0x20

end Fragment
end Relabel
