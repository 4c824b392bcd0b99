import Relabel.Text.Utf8

/-!
# Encoded text reads back

The reading machine, fed the bytes of one character between characters, comes back between characters
with that character read, whatever it has read before and whatever bytes follow (`decodeFrom_encodeChar`).
A whole text is one such step after another (`decode?_encode`).

The steps are settled by the length of the encoding. For each length there is one statement on what a
first byte opens, with the narrowed range of the next byte spelled out as a function of the first; the
rules against overlong forms and surrogates are the reason why the second byte of a character that exists
always lies in it.
-/

namespace Relabel.Utf8

/-! ## What first bytes open -/

theorem not_lt_of_toNat_le {b c : UInt8} (h : c.toNat ≤ b.toNat) : ¬ b < c := by
  rw [UInt8.lt_iff_toNat_lt]
  exact Nat.not_lt.mpr h

/-- A byte below 0x80 is a character by itself. -/
theorem opening_one {b : UInt8} (h : b.toNat < 0x80) : opening b = .whole (Char.ofNat b.toNat) := by
  have hb : b < 0x80 := UInt8.lt_iff_toNat_lt.mpr h
  simp only [opening, if_pos hb]

/-- A byte from 0xc2 to 0xdf opens a character of two bytes. -/
theorem opening_two {b : UInt8} (h₁ : 0xc2 ≤ b.toNat) (h₂ : b.toNat < 0xe0) :
    opening b = .part ⟨1, 0x80, 0xbf, b.toNat - 0xc0⟩ := by
  have n₁ : ¬ b < 0x80 := not_lt_of_toNat_le (Nat.le_trans (by decide) h₁)
  have n₂ : ¬ b < 0xc2 := not_lt_of_toNat_le h₁
  have y : b < 0xe0 := UInt8.lt_iff_toNat_lt.mpr h₂
  simp only [opening, if_neg n₁, if_neg n₂, if_pos y]

/-- A byte from 0xe0 to 0xef opens a character of three bytes. -/
theorem opening_three {b : UInt8} (h₁ : 0xe0 ≤ b.toNat) (h₂ : b.toNat < 0xf0) :
    opening b = .part ⟨2, if b = 0xe0 then 0xa0 else 0x80, if b = 0xed then 0x9f else 0xbf,
      b.toNat - 0xe0⟩ := by
  have n₁ : ¬ b < 0x80 := not_lt_of_toNat_le (Nat.le_trans (by decide) h₁)
  have n₂ : ¬ b < 0xc2 := not_lt_of_toNat_le (Nat.le_trans (by decide) h₁)
  have n₃ : ¬ b < 0xe0 := not_lt_of_toNat_le h₁
  have y : b < 0xf0 := UInt8.lt_iff_toNat_lt.mpr h₂
  simp only [opening, if_neg n₁, if_neg n₂, if_neg n₃]
  by_cases he : b = 0xe0
  · subst he
    rfl
  · by_cases hd : b = 0xed
    · subst hd
      rfl
    · simp only [if_neg he, if_neg hd, if_pos y]

/-- A byte from 0xf0 to 0xf4 opens a character of four bytes. -/
theorem opening_four {b : UInt8} (h₁ : 0xf0 ≤ b.toNat) (h₂ : b.toNat < 0xf5) :
    opening b = .part ⟨3, if b = 0xf0 then 0x90 else 0x80, if b = 0xf4 then 0x8f else 0xbf,
      b.toNat - 0xf0⟩ := by
  have n₁ : ¬ b < 0x80 := not_lt_of_toNat_le (Nat.le_trans (by decide) h₁)
  have n₂ : ¬ b < 0xc2 := not_lt_of_toNat_le (Nat.le_trans (by decide) h₁)
  have n₃ : ¬ b < 0xe0 := not_lt_of_toNat_le (Nat.le_trans (by decide) h₁)
  have n₄ : ¬ b = 0xe0 := fun h => by subst h; simp at h₁
  have n₅ : ¬ b = 0xed := fun h => by subst h; simp at h₁
  have n₆ : ¬ b < 0xf0 := not_lt_of_toNat_le h₁
  simp only [opening, if_neg n₁, if_neg n₂, if_neg n₃, if_neg n₄, if_neg n₅, if_neg n₆]
  by_cases he : b = 0xf0
  · subst he
    rfl
  · by_cases hd : b = 0xf4
    · subst hd
      rfl
    · have hn : b.toNat ≠ 0xf4 := fun h => hd (UInt8.toNat_inj.mp h)
      have y : b < 0xf4 := UInt8.lt_iff_toNat_lt.mpr (by simp; omega)
      simp only [if_neg he, if_neg hd, if_pos y]

/-! ## One character -/

/-- The last byte of a character, once admitted, completes it. -/
theorem decodeFrom_last {p : Pending} {b : UInt8} (ha : p.admits b = true) (ho : p.owed = 1)
    (read : List Char) (rest : Bytes) :
    decodeFrom (some p) read (b :: rest) = decodeFrom none (Char.ofNat (p.codeWith b) :: read) rest := by
  simp only [decodeFrom, ha, if_pos ho, ↓reduceIte]

/-- Any other byte inside a character, once admitted, leaves it pending. -/
theorem decodeFrom_inside {p : Pending} {b : UInt8} (ha : p.admits b = true) (ho : p.owed ≠ 1)
    (read : List Char) (rest : Bytes) :
    decodeFrom (some p) read (b :: rest) = decodeFrom (some (p.next b)) read rest := by
  simp only [decodeFrom, ha, if_neg ho, ↓reduceIte]

/-- A byte that opens a longer character leaves it pending. -/
theorem decodeFrom_part {b : UInt8} {p : Pending} (h : opening b = .part p) (read : List Char)
    (rest : Bytes) : decodeFrom none read (b :: rest) = decodeFrom (some p) read rest := by
  simp only [decodeFrom, h]

theorem admits_iff {p : Pending} {b : UInt8} :
    p.admits b = true ↔ p.low.toNat ≤ b.toNat ∧ b.toNat ≤ p.high.toNat := by
  simp only [Pending.admits, Bool.and_eq_true, decide_eq_true_eq, UInt8.le_iff_toNat_le]

/-- Two bytes that open and close a character are read as it. -/
theorem decodeFrom_two {b c : UInt8} (hb₁ : 0xc2 ≤ b.toNat) (hb₂ : b.toNat < 0xe0)
    (hc₁ : 0x80 ≤ c.toNat) (hc₂ : c.toNat ≤ 0xbf) (read : List Char) (rest : Bytes) :
    decodeFrom none read (b :: c :: rest) =
      decodeFrom none (Char.ofNat ((b.toNat - 0xc0) * 64 + (c.toNat - 0x80)) :: read) rest := by
  rw [decodeFrom_part (opening_two hb₁ hb₂), decodeFrom_last ?second rfl]
  · rfl
  case second => exact admits_iff.mpr ⟨hc₁, hc₂⟩

/-- Three bytes are read as one character: after 0xe0 the second must not be too small for three bytes
to be needed, and after 0xed not so great that the code is a surrogate's. -/
theorem decodeFrom_three {b c d : UInt8} (hb₁ : 0xe0 ≤ b.toNat) (hb₂ : b.toNat < 0xf0)
    (hc₁ : 0x80 ≤ c.toNat) (hc₂ : c.toNat ≤ 0xbf) (needed : b.toNat = 0xe0 → 0xa0 ≤ c.toNat)
    (scalar : b.toNat = 0xed → c.toNat ≤ 0x9f) (hd₁ : 0x80 ≤ d.toNat) (hd₂ : d.toNat ≤ 0xbf)
    (read : List Char) (rest : Bytes) :
    decodeFrom none read (b :: c :: d :: rest) =
      decodeFrom none
        (Char.ofNat (((b.toNat - 0xe0) * 64 + (c.toNat - 0x80)) * 64 + (d.toNat - 0x80)) :: read)
        rest := by
  rw [decodeFrom_part (opening_three hb₁ hb₂),
    decodeFrom_inside ?second (Nat.succ_ne_self 1), decodeFrom_last ?third rfl]
  · rfl
  case second =>
    refine admits_iff.mpr ⟨?_, ?_⟩
    · show (if b = 0xe0 then 0xa0 else 0x80 : UInt8).toNat ≤ c.toNat
      split
      · next h => exact needed (congrArg UInt8.toNat h)
      · exact hc₁
    · show c.toNat ≤ (if b = 0xed then 0x9f else 0xbf : UInt8).toNat
      split
      · next h => exact scalar (congrArg UInt8.toNat h)
      · exact hc₂
  case third => exact admits_iff.mpr ⟨hd₁, hd₂⟩

/-- Four bytes are read as one character: after 0xf0 the second must not be too small for four bytes to
be needed, and after 0xf4 not so great that the code is beyond the last character's. -/
theorem decodeFrom_four {b c d e : UInt8} (hb₁ : 0xf0 ≤ b.toNat) (hb₂ : b.toNat < 0xf5)
    (hc₁ : 0x80 ≤ c.toNat) (hc₂ : c.toNat ≤ 0xbf) (needed : b.toNat = 0xf0 → 0x90 ≤ c.toNat)
    (exists_ : b.toNat = 0xf4 → c.toNat ≤ 0x8f) (hd₁ : 0x80 ≤ d.toNat) (hd₂ : d.toNat ≤ 0xbf)
    (he₁ : 0x80 ≤ e.toNat) (he₂ : e.toNat ≤ 0xbf) (read : List Char) (rest : Bytes) :
    decodeFrom none read (b :: c :: d :: e :: rest) =
      decodeFrom none
        (Char.ofNat ((((b.toNat - 0xf0) * 64 + (c.toNat - 0x80)) * 64 + (d.toNat - 0x80)) * 64 +
          (e.toNat - 0x80)) :: read)
        rest := by
  rw [decodeFrom_part (opening_four hb₁ hb₂),
    decodeFrom_inside ?second (show (3 : Nat) ≠ 1 by decide),
    decodeFrom_inside ?third (Nat.succ_ne_self 1), decodeFrom_last ?fourth rfl]
  · rfl
  case second =>
    refine admits_iff.mpr ⟨?_, ?_⟩
    · show (if b = 0xf0 then 0x90 else 0x80 : UInt8).toNat ≤ c.toNat
      split
      · next h => exact needed (congrArg UInt8.toNat h)
      · exact hc₁
    · show c.toNat ≤ (if b = 0xf4 then 0x8f else 0xbf : UInt8).toNat
      split
      · next h => exact exists_ (congrArg UInt8.toNat h)
      · exact hc₂
  case third => exact admits_iff.mpr ⟨hd₁, hd₂⟩
  case fourth => exact admits_iff.mpr ⟨he₁, he₂⟩

theorem toNat_toUInt8 {n : Nat} (h : n < 256) : n.toUInt8.toNat = n := by
  simp only [Nat.toUInt8, UInt8.toNat_ofNat']
  omega

/-- **The machine reads one encoded character**, given its code is one of a character. The cases are the four lengths;
the code is put together again from the six bits that each continuation byte holds and the rest in the first byte. -/
theorem decodeFrom_encodeCode {n : Nat} (h : n.isValidChar) (read : List Char) (rest : Bytes) :
    decodeFrom none read (encodeCode n ++ rest) = decodeFrom none (Char.ofNat n :: read) rest := by
  have hn : n < 0xd800 ∨ 0xdfff < n ∧ n < 0x110000 := h
  -- One case for each length; in each the bytes are put in numbers and omega checks their ranges.
  unfold encodeCode
  split
  · next h₁ =>
    have hb : n.toUInt8.toNat = n := toNat_toUInt8 (by omega)
    have ho := opening_one (b := n.toUInt8) (by omega)
    rw [hb] at ho
    simp only [List.cons_append, List.nil_append, decodeFrom, ho]
  split
  · next h₁ h₂ =>
    have hb : (0xc0 + n / 64).toUInt8.toNat = 0xc0 + n / 64 := toNat_toUInt8 (by omega)
    have hc : (0x80 + n % 64).toUInt8.toNat = 0x80 + n % 64 := toNat_toUInt8 (by omega)
    have code : (0xc0 + n / 64 - 0xc0) * 64 + (0x80 + n % 64 - 0x80) = n := by omega
    have read_two := decodeFrom_two (b := (0xc0 + n / 64).toUInt8) (c := (0x80 + n % 64).toUInt8)
      (by omega) (by omega) (by omega) (by omega) read rest
    rw [hb, hc, code] at read_two
    exact read_two
  split
  · next h₁ h₂ h₃ =>
    have hb : (0xe0 + n / 4096).toUInt8.toNat = 0xe0 + n / 4096 := toNat_toUInt8 (by omega)
    have hc : (0x80 + n / 64 % 64).toUInt8.toNat = 0x80 + n / 64 % 64 := toNat_toUInt8 (by omega)
    have hd : (0x80 + n % 64).toUInt8.toNat = 0x80 + n % 64 := toNat_toUInt8 (by omega)
    have code : ((0xe0 + n / 4096 - 0xe0) * 64 + (0x80 + n / 64 % 64 - 0x80)) * 64 +
        (0x80 + n % 64 - 0x80) = n := by omega
    have read_three := decodeFrom_three (b := (0xe0 + n / 4096).toUInt8)
      (c := (0x80 + n / 64 % 64).toUInt8) (d := (0x80 + n % 64).toUInt8) (by omega) (by omega)
      (by omega) (by omega) (by omega) (by omega) (by omega) (by omega) read rest
    rw [hb, hc, hd, code] at read_three
    exact read_three
  · next h₁ h₂ h₃ =>
    have hb : (0xf0 + n / 262144).toUInt8.toNat = 0xf0 + n / 262144 := toNat_toUInt8 (by omega)
    have hc : (0x80 + n / 4096 % 64).toUInt8.toNat = 0x80 + n / 4096 % 64 := toNat_toUInt8 (by omega)
    have hd : (0x80 + n / 64 % 64).toUInt8.toNat = 0x80 + n / 64 % 64 := toNat_toUInt8 (by omega)
    have he : (0x80 + n % 64).toUInt8.toNat = 0x80 + n % 64 := toNat_toUInt8 (by omega)
    have code : (((0xf0 + n / 262144 - 0xf0) * 64 + (0x80 + n / 4096 % 64 - 0x80)) * 64 +
        (0x80 + n / 64 % 64 - 0x80)) * 64 + (0x80 + n % 64 - 0x80) = n := by omega
    have read_four := decodeFrom_four (b := (0xf0 + n / 262144).toUInt8)
      (c := (0x80 + n / 4096 % 64).toUInt8) (d := (0x80 + n / 64 % 64).toUInt8)
      (e := (0x80 + n % 64).toUInt8) (by omega) (by omega) (by omega) (by omega) (by omega)
      (by omega) (by omega) (by omega) (by omega) (by omega) read rest
    rw [hb, hc, hd, he, code] at read_four
    exact read_four

/-! ## Texts -/

/-- The machine reads one encoded character. -/
theorem decodeFrom_encodeChar (c : Char) (read : List Char) (rest : Bytes) :
    decodeFrom none read (encodeChar c ++ rest) = decodeFrom none (c :: read) rest := by
  rw [encodeChar, decodeFrom_encodeCode (n := c.toNat) c.valid, Char.ofNat_toNat]

/-- The machine reads one encoded character after another. -/
theorem decodeFrom_encodeChars (cs read : List Char) (rest : Bytes) :
    decodeFrom none read (encodeChars cs ++ rest) = decodeFrom none (cs.reverse ++ read) rest := by
  induction cs generalizing read with
  | nil => rfl
  | cons c cs ih =>
    rw [encodeChars, List.flatMap_cons, List.append_assoc, decodeFrom_encodeChar, ← encodeChars, ih,
      List.reverse_cons, List.append_assoc]
    rfl

/-- **An encoded text reads back.** -/
theorem decode?_encode (text : String) : decode? (encode text) = some text := by
  have h := decodeFrom_encodeChars text.toList [] []
  simp only [List.append_nil] at h
  simp only [decode?, decodeChars?, encode, h, decodeFrom, Option.isNone_none, ↓reduceIte,
    List.reverse_reverse, Option.map_some, String.ofList_toList]

end Relabel.Utf8
