import Relabel.Json.Escape
import Relabel.Proofs.Json.Grammar
import Relabel.Proofs.Text.Utf8

/-!
# Written strings stand for their texts

A character written inside a string stands for the bytes of the character, one after another a text for the
bytes of the text, and those decode to the text. The grammar's `Text` is what the last of these steps ends
in (`text_flatMap`); it holds for every way of writing that is faithful character by character, which is
`Escape.Faithful`.

Writing in ASCII is faithful (`ascii_faithful`). The cases are those of `asciiChar` and `codeUnits`: a
letter, a character by itself, and the units of UTF-16, of which a pair of surrogates is put together again
by `pairCode`. A unit by itself is never a surrogate, because a character is none.
-/

namespace Relabel
namespace Escape

open Grammar Reader

/-! ## Units -/

/-- A hexadecimal digit has the value that it was made from. -/
theorem hexValue?_hexDigit : ∀ n, n < 16 → Ascii.hexValue? (Ascii.hexDigit n) = some n := by decide

/-- The four digits of a unit are the unit's. -/
theorem hexUnit?_digits {unit : Nat} (h : unit < 0x10000) :
    hexUnit? (Ascii.hexDigit (unit / 4096 % 16)) (Ascii.hexDigit (unit / 256 % 16))
      (Ascii.hexDigit (unit / 16 % 16)) (Ascii.hexDigit (unit % 16)) = some unit := by
  have digits : ((unit / 4096 % 16 * 16 + unit / 256 % 16) * 16 + unit / 16 % 16) * 16 + unit % 16 =
      unit := by omega
  simp only [hexUnit?, hexValue?_hexDigit _ (Nat.mod_lt _ (Nat.succ_pos 15)), Option.bind_eq_bind,
    Option.bind_some, digits]
  rfl

theorem isLowSurrogate_iff {unit : Nat} : isLowSurrogate unit = true ↔ 0xdc00 ≤ unit ∧ unit ≤ 0xdfff := by
  simp only [isLowSurrogate, Bool.and_eq_true, decide_eq_true_eq]

theorem isHighSurrogate_iff {unit : Nat} :
    isHighSurrogate unit = true ↔ 0xd800 ≤ unit ∧ unit ≤ 0xdbff := by
  simp only [isHighSurrogate, Bool.and_eq_true, decide_eq_true_eq]

/-- The code of a character is no surrogate. -/
theorem no_surrogate {code : Nat} (h : code.isValidChar) :
    isLowSurrogate code = false ∧ isHighSurrogate code = false := by
  have scalar : code < 0xd800 ∨ 0xdfff < code ∧ code < 0x110000 := h
  rw [Bool.eq_false_iff, ne_eq, isLowSurrogate_iff, Bool.eq_false_iff, ne_eq, isHighSurrogate_iff]
  omega

/-- An escaped unit stands for the character with its code. -/
theorem body_unitEscape {unit : Nat} (h : unit.isValidChar) (small : unit < 0x10000)
    {after more rest : Bytes} (body : StringBody after more rest) :
    StringBody (unitEscape unit ++ after) (Utf8.encodeCode unit ++ more) rest := by
  obtain ⟨low, high⟩ := no_surrogate h
  exact .escape (.unit (hexUnit?_digits small) low high) body

/-- An escaped pair of surrogates stands for the character with its code. -/
theorem body_pairEscape {high low : Nat} (hh : isHighSurrogate high = true)
    (hl : isLowSurrogate low = true) {after more rest : Bytes} (body : StringBody after more rest) :
    StringBody (unitEscape high ++ (unitEscape low ++ after))
      (Utf8.encodeCode (pairCode high low) ++ more) rest := by
  have hh' := isHighSurrogate_iff.mp hh
  have hl' := isLowSurrogate_iff.mp hl
  exact .escape (.pair (hexUnit?_digits (by omega)) hh (hexUnit?_digits (by omega)) hl) body

/-- The surrogates of a code beyond U+FFFF are a pair, and the pair has the code. -/
theorem surrogates_of_code {code : Nat} (large : 0x10000 ≤ code) (small : code < 0x110000) :
    isHighSurrogate (0xd800 + (code - 0x10000) / 0x400) = true ∧
      isLowSurrogate (0xdc00 + (code - 0x10000) % 0x400) = true ∧
      pairCode (0xd800 + (code - 0x10000) / 0x400) (0xdc00 + (code - 0x10000) % 0x400) = code := by
  rw [isHighSurrogate_iff, isLowSurrogate_iff, pairCode]
  omega

/-! ## Characters -/

/-- A character as it is spelled in ASCII: itself, or the escapes of its UTF-16 units. -/
def spelled (c : Char) : Bytes := if c.toNat < 0x80 then [Ascii.byte c] else (codeUnits c).flatMap unitEscape

/-- An escaped letter stands for a byte. -/
theorem body_letterEscape {letter : Char} {plain : UInt8}
    (h : plainEscape? (Ascii.byte letter) = some plain) {after more rest : Bytes}
    (body : StringBody after more rest) :
    StringBody (letterEscape letter ++ after) (plain :: more) rest :=
  .escape (.letter h) body

theorem toNat_byte {c : Char} (h : c.toNat < 0x80) : (Ascii.byte c).toNat = c.toNat :=
  Utf8.toNat_toUInt8 (by omega)

theorem byte_ne_byte {c d : Char} (hc : c.toNat < 0x80) (hd : d.toNat < 0x80) (ne : c ≠ d) :
    Ascii.byte c ≠ Ascii.byte d := by
  intro heq
  have same := congrArg UInt8.toNat heq
  rw [toNat_byte hc, toNat_byte hd] at same
  exact ne (Char.toNat_inj.mp same)

/-- An ASCII character stands for itself. -/
theorem body_asciiChar {c : Char} (hc : c.toNat < 0x80) {after more rest : Bytes}
    (body : StringBody after more rest) :
    StringBody (asciiChar c ++ after) (Utf8.encodeChar c ++ more) rest := by
  unfold asciiChar
  split
  · next h => subst h; exact body_letterEscape rfl body
  split
  · next h => subst h; exact body_letterEscape rfl body
  split
  · next h => subst h; exact body_letterEscape rfl body
  split
  · next h => subst h; exact body_letterEscape rfl body
  split
  · next h => subst h; exact body_letterEscape rfl body
  split
  · next h => subst h; exact body_letterEscape rfl body
  split
  · next h => subst h; exact body_letterEscape rfl body
  split
  · have valid : c.toNat.isValidChar := c.valid
    exact body_unitEscape valid (by omega) body
  · -- The character stands for itself: it is none of those that would end or break the string.
    next notQuote notBackslash _ _ _ _ _ notControl =>
    have meaning : Utf8.encodeChar c = [Ascii.byte c] := by
      simp only [Utf8.encodeChar, Utf8.encodeCode, if_pos hc, Ascii.byte]
    rw [meaning]
    refine .plain (byte_ne_byte hc (by decide) notQuote) (byte_ne_byte hc (by decide) notBackslash) ?_ body
    exact Utf8.not_lt_of_toNat_le (by rw [toNat_byte hc]; exact Nat.not_lt.mp notControl)

/-- **Writing in ASCII keeps every character.** One of ASCII is written as itself or by an escape of its own, one with
a code below 0x10000 by a single unit, and any other one by a pair of surrogates, from which its code is computed
back. -/
theorem body_ascii (c : Char) {after more rest : Bytes} (body : StringBody after more rest) :
    StringBody (ascii c ++ after) (Utf8.encodeChar c ++ more) rest := by
  unfold ascii
  split
  · next h => exact body_asciiChar h body
  · unfold codeUnits
    split
    · next small =>
      simp only [List.flatMap_cons, List.flatMap_nil, List.append_nil]
      exact body_unitEscape c.valid small body
    · next large =>
      have small : c.toNat < 0x110000 := by
        have : c.toNat < 0xd800 ∨ 0xdfff < c.toNat ∧ c.toNat < 0x110000 := c.valid
        omega
      obtain ⟨high, low, code⟩ := surrogates_of_code (Nat.not_lt.mp large) small
      have pair := body_pairEscape high low body
      rw [code] at pair
      simpa only [List.flatMap_cons, List.flatMap_nil, List.append_nil, List.append_assoc,
        Utf8.encodeChar] using pair

/-! ## Texts -/

/-- A way of writing characters that keeps each of them inside a string. -/
def Faithful (write : Char → Bytes) : Prop :=
  ∀ (c : Char) {after more rest : Bytes}, StringBody after more rest →
    StringBody (write c ++ after) (Utf8.encodeChar c ++ more) rest

theorem ascii_faithful : Faithful ascii := fun c => body_ascii c

/-- Characters that are written one after another stand for their bytes. -/
theorem body_flatMap {write : Char → Bytes} (faithful : Faithful write) (cs : List Char) (rest : Bytes) :
    StringBody (cs.flatMap write ++ Ascii.quote :: rest) (Utf8.encodeChars cs) rest := by
  induction cs with
  | nil => exact .close
  | cons c cs ih =>
    rw [Utf8.encodeChars, List.flatMap_cons, List.flatMap_cons, List.append_assoc]
    exact faithful c ih

/-- **A written text stands for itself.** -/
theorem text_flatMap {write : Char → Bytes} (faithful : Faithful write) (text : String) (rest : Bytes) :
    Text (text.toList.flatMap write ++ Ascii.quote :: rest) text rest :=
  ⟨Utf8.encode text, body_flatMap faithful text.toList rest, Utf8.decode?_encode text⟩

end Escape
end Relabel
