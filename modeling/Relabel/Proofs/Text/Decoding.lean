import Relabel.Proofs.Text.Utf8

/-!
# Text that reads back was encoded

The reading machine accepts nothing but encoded text: the bytes of a text are the only ones that read as it
(`decode?_eq_some_iff`). One step of the argument is one character (`exists_encodeChar`): the first byte settles
how many bytes there are, and within the ranges that the machine allows to the others, encoding the code that was
read gives the same bytes again. Here the narrowed ranges are what keeps overlong forms and surrogates away.

An encoded character is recognized at the front of encoded text (`encodeChar_append_eq`), and it has a shape of
its own, a first byte and continuation bytes (`encodeCode_shape`). Both are for those who read a text piece by
piece and have to know that no two pieces join to a character.
-/

namespace Relabel.Utf8

/-! ## The shape of a character -/

/-- A byte inside a character, never the first one of any. -/
def IsContinuation (b : UInt8) : Prop := 0x80 ≤ b.toNat ∧ b.toNat < 0xc0

/-- The bytes of a character are a first one, which tells whether it stands alone, and continuation bytes. -/
theorem encodeCode_shape (n : Nat) (h : n.isValidChar) :
    ∃ b more, encodeCode n = b :: more ∧ ¬ IsContinuation b ∧ (∀ c ∈ more, IsContinuation c) ∧
      (n < 0x80 ∧ b.toNat = n ∧ more = [] ∨ 0x80 ≤ n ∧ 0x80 ≤ b.toNat) := by
  have hn : n < 0xd800 ∨ 0xdfff < n ∧ n < 0x110000 := h
  have continuation : ∀ m < 0x40, IsContinuation (0x80 + m).toUInt8 := by
    intro m hm
    rw [IsContinuation, toNat_toUInt8 (by omega)]
    omega
  have lead : ∀ m, 0xc0 ≤ m → m < 0x100 → ¬ IsContinuation m.toUInt8 ∧ 0x80 ≤ m.toUInt8.toNat := by
    intro m low high
    rw [IsContinuation, toNat_toUInt8 high]
    omega
  unfold encodeCode
  split
  · next h₁ =>
    have number : n.toUInt8.toNat = n := toNat_toUInt8 (by omega)
    refine ⟨_, _, rfl, ?_, (fun _ hc => nomatch hc), .inl ⟨h₁, number, rfl⟩⟩
    rw [IsContinuation, number]
    omega
  split
  · next h₁ h₂ =>
    obtain ⟨first, large⟩ := lead (0xc0 + n / 64) (by omega) (by omega)
    refine ⟨_, _, rfl, first, ?_, .inr ⟨Nat.not_lt.mp h₁, large⟩⟩
    simp only [List.mem_cons, List.not_mem_nil, or_false, forall_eq]
    exact continuation _ (by omega)
  split
  · next h₁ h₂ h₃ =>
    obtain ⟨first, large⟩ := lead (0xe0 + n / 4096) (by omega) (by omega)
    refine ⟨_, _, rfl, first, ?_, .inr ⟨Nat.not_lt.mp h₁, large⟩⟩
    simp only [List.mem_cons, List.not_mem_nil, or_false, forall_eq_or_imp, forall_eq]
    exact ⟨continuation _ (by omega), continuation _ (by omega)⟩
  · next h₁ h₂ h₃ =>
    obtain ⟨first, large⟩ := lead (0xf0 + n / 262144) (by omega) (by omega)
    refine ⟨_, _, rfl, first, ?_, .inr ⟨Nat.not_lt.mp h₁, large⟩⟩
    simp only [List.mem_cons, List.not_mem_nil, or_false, forall_eq_or_imp, forall_eq]
    exact ⟨continuation _ (by omega), continuation _ (by omega), continuation _ (by omega)⟩

/-! ## One character -/

/-- Inside a character a byte must follow, and it completes the character or leaves it pending. It is within the
bounds that the bytes before it have left. -/
theorem exists_of_decodeFrom_pending {p : Pending} {read cs : List Char} {bytes : Bytes}
    (h : decodeFrom (some p) read bytes = some cs) :
    ∃ b rest, bytes = b :: rest ∧ p.low.toNat ≤ b.toNat ∧ b.toNat ≤ p.high.toNat ∧
      (p.owed = 1 → decodeFrom none (Char.ofNat (p.codeWith b) :: read) rest = some cs) ∧
      (p.owed ≠ 1 → decodeFrom (some (p.next b)) read rest = some cs) := by
  cases bytes with
  | nil => cases h
  | cons b rest =>
    simp only [decodeFrom] at h
    split at h
    · next admitted =>
      obtain ⟨low, high⟩ := admits_iff.mp admitted
      refine ⟨b, rest, rfl, low, high, fun last => ?_, fun inside => ?_⟩
      · rw [if_pos last] at h
        exact h
      · rw [if_neg inside] at h
        exact h
    · cases h

theorem toNat_ofNat {n : Nat} (h : n.isValidChar) : (Char.ofNat n).toNat = n := by
  rw [Char.ofNat, dif_pos h]
  rfl

theorem encodeChar_ofNat {n : Nat} (h : n.isValidChar) : encodeChar (Char.ofNat n) = encodeCode n := by
  rw [encodeChar, toNat_ofNat h]

/-- No character begins with a continuation byte, with one that would begin a character in more bytes than it needs,
or with one beyond all characters. -/
theorem opening_broken {b : UInt8} (h : 0x80 ≤ b.toNat ∧ b.toNat < 0xc2 ∨ 0xf5 ≤ b.toNat) :
    opening b = .broken := by
  have n₁ : ¬ b < 0x80 := not_lt_of_toNat_le (show 0x80 ≤ b.toNat by omega)
  rcases h with ⟨-, small⟩ | large
  · have y : b < 0xc2 := UInt8.lt_iff_toNat_lt.mpr small
    simp only [opening, if_neg n₁, if_pos y]
  · have not : ∀ c : UInt8, c.toNat < 0xf5 → ¬ b < c ∧ b ≠ c := by
      intro c hc
      refine ⟨not_lt_of_toNat_le (by omega), ?_⟩
      rintro rfl
      omega
    simp only [opening, if_neg n₁, if_neg (not 0xc2 (by decide)).1, if_neg (not 0xe0 (by decide)).1,
      if_neg (not 0xe0 (by decide)).2, if_neg (not 0xed (by decide)).2, if_neg (not 0xf0 (by decide)).1,
      if_neg (not 0xf0 (by decide)).2, if_neg (not 0xf4 (by decide)).1, if_neg (not 0xf4 (by decide)).2]

theorem toUInt8_eq {n : Nat} {b : UInt8} (h : n = b.toNat) : n.toUInt8 = b := by
  apply UInt8.toNat_inj.mp
  rw [h, toNat_toUInt8 b.toNat_lt]

theorem narrowed_low {b c special least : UInt8} (hl : 0x80 ≤ least.toNat)
    (h : (if b = special then least else 0x80).toNat ≤ c.toNat) :
    0x80 ≤ c.toNat ∧ (b.toNat = special.toNat → least.toNat ≤ c.toNat) := by
  by_cases hb : b = special
  · rw [if_pos hb] at h
    exact ⟨Nat.le_trans hl h, fun _ => h⟩
  · rw [if_neg hb] at h
    exact ⟨h, fun same => absurd (UInt8.toNat_inj.mp same) hb⟩

theorem narrowed_high {b c special greatest : UInt8} (hg : greatest.toNat ≤ 0xbf)
    (h : c.toNat ≤ (if b = special then greatest else 0xbf).toNat) :
    c.toNat ≤ 0xbf ∧ (b.toNat = special.toNat → c.toNat ≤ greatest.toNat) := by
  by_cases hb : b = special
  · rw [if_pos hb] at h
    exact ⟨Nat.le_trans h hg, fun _ => h⟩
  · rw [if_neg hb] at h
    exact ⟨h, fun same => absurd (UInt8.toNat_inj.mp same) hb⟩

/-! The converse of the machine's three long readings: what it makes of two, three or four bytes within their
ranges is a character with these bytes. -/

theorem encodeChar_two {b c : UInt8} (hb₁ : 0xc2 ≤ b.toNat) (hb₂ : b.toNat < 0xe0) (hc₁ : 0x80 ≤ c.toNat)
    (hc₂ : c.toNat ≤ 0xbf) :
    encodeChar (Char.ofNat ((b.toNat - 0xc0) * 64 + (c.toNat - 0x80))) = [b, c] := by
  have valid : ((b.toNat - 0xc0) * 64 + (c.toNat - 0x80)).isValidChar := .inl (by omega)
  rw [encodeChar_ofNat valid, encodeCode, if_neg (by omega), if_pos (by omega),
    toUInt8_eq (b := b) (by omega), toUInt8_eq (b := c) (by omega)]

theorem encodeChar_three {b c d : UInt8} (hb₁ : 0xe0 ≤ b.toNat) (hb₂ : b.toNat < 0xf0)
    (hc₁ : 0x80 ≤ c.toNat) (hc₂ : c.toNat ≤ 0xbf) (needed : b.toNat = 0xe0 → 0xa0 ≤ c.toNat)
    (scalar : b.toNat = 0xed → c.toNat ≤ 0x9f) (hd₁ : 0x80 ≤ d.toNat) (hd₂ : d.toNat ≤ 0xbf) :
    encodeChar (Char.ofNat (((b.toNat - 0xe0) * 64 + (c.toNat - 0x80)) * 64 + (d.toNat - 0x80))) =
      [b, c, d] := by
  have valid : (((b.toNat - 0xe0) * 64 + (c.toNat - 0x80)) * 64 + (d.toNat - 0x80)).isValidChar := by
    show _ < 0xd800 ∨ 0xdfff < _ ∧ _ < 0x110000
    omega
  rw [encodeChar_ofNat valid, encodeCode, if_neg (by omega), if_neg (by omega), if_pos (by omega),
    toUInt8_eq (b := b) (by omega), toUInt8_eq (b := c) (by omega), toUInt8_eq (b := d) (by omega)]

theorem encodeChar_four {b c d e : UInt8} (hb₁ : 0xf0 ≤ b.toNat) (hb₂ : b.toNat < 0xf5)
    (hc₁ : 0x80 ≤ c.toNat) (hc₂ : c.toNat ≤ 0xbf) (needed : b.toNat = 0xf0 → 0x90 ≤ c.toNat)
    (exists_ : b.toNat = 0xf4 → c.toNat ≤ 0x8f) (hd₁ : 0x80 ≤ d.toNat) (hd₂ : d.toNat ≤ 0xbf)
    (he₁ : 0x80 ≤ e.toNat) (he₂ : e.toNat ≤ 0xbf) :
    encodeChar (Char.ofNat ((((b.toNat - 0xf0) * 64 + (c.toNat - 0x80)) * 64 + (d.toNat - 0x80)) * 64 +
      (e.toNat - 0x80))) = [b, c, d, e] := by
  have valid : ((((b.toNat - 0xf0) * 64 + (c.toNat - 0x80)) * 64 + (d.toNat - 0x80)) * 64 +
      (e.toNat - 0x80)).isValidChar := by
    show _ < 0xd800 ∨ 0xdfff < _ ∧ _ < 0x110000
    omega
  rw [encodeChar_ofNat valid, encodeCode, if_neg (by omega), if_neg (by omega), if_neg (by omega),
    toUInt8_eq (b := b) (by omega), toUInt8_eq (b := c) (by omega), toUInt8_eq (b := d) (by omega),
    toUInt8_eq (b := e) (by omega)]

/-- **Sound bytes start with an encoded character**, whose length the first byte settles. For each length, the bytes
that the machine has let pass are those of the character that it makes of them: the bounds on the second byte keep out
what could be encoded in fewer bytes, and what is no character. -/
theorem exists_encodeChar {b : UInt8} {rest : Bytes} {read cs : List Char}
    (h : decodeFrom none read (b :: rest) = some cs) :
    ∃ c after, b :: rest = encodeChar c ++ after ∧ decodeFrom none (c :: read) after = some cs := by
  have hb := b.toNat_lt
  by_cases h₁ : b.toNat < 0x80
  · have valid : b.toNat.isValidChar := .inl (by omega)
    refine ⟨Char.ofNat b.toNat, rest, ?_, ?_⟩
    · rw [encodeChar_ofNat valid, encodeCode, if_pos h₁, toUInt8_eq rfl]
      rfl
    · simpa only [decodeFrom, opening_one h₁] using h
  by_cases h₂ : b.toNat < 0xc2 ∨ 0xf5 ≤ b.toNat
  · have broken : opening b = .broken := opening_broken (by omega)
    simp only [decodeFrom, broken, reduceCtorEq] at h
  by_cases h₃ : b.toNat < 0xe0
  · rw [decodeFrom_part (opening_two (by omega) h₃)] at h
    obtain ⟨c, after, rfl, hc₁, hc₂, last, -⟩ := exists_of_decodeFrom_pending h
    exact ⟨_, after, congrArg (· ++ after) (encodeChar_two (by omega) h₃ hc₁ hc₂).symm, last rfl⟩
  by_cases h₄ : b.toNat < 0xf0
  · rw [decodeFrom_part (opening_three (by omega) h₄)] at h
    obtain ⟨c, after, rfl, hc₁, hc₂, -, inside⟩ := exists_of_decodeFrom_pending h
    obtain ⟨d, after, rfl, hd₁, hd₂, last, -⟩ := exists_of_decodeFrom_pending (inside (Nat.succ_ne_self 1))
    obtain ⟨hc₁, needed⟩ := narrowed_low (by decide) hc₁
    obtain ⟨hc₂, scalar⟩ := narrowed_high (by decide) hc₂
    have three := encodeChar_three (by omega) h₄ hc₁ hc₂ needed scalar hd₁ hd₂
    exact ⟨_, after, congrArg (· ++ after) three.symm, last rfl⟩
  · rw [decodeFrom_part (opening_four (by omega) (by omega))] at h
    obtain ⟨c, after, rfl, hc₁, hc₂, -, inside⟩ := exists_of_decodeFrom_pending h
    obtain ⟨d, after, rfl, hd₁, hd₂, -, inside'⟩ :=
      exists_of_decodeFrom_pending (inside (show (3 : Nat) ≠ 1 by decide))
    obtain ⟨e, after, rfl, he₁, he₂, last, -⟩ := exists_of_decodeFrom_pending (inside' (Nat.succ_ne_self 1))
    obtain ⟨hc₁, needed⟩ := narrowed_low (by decide) hc₁
    obtain ⟨hc₂, exists_⟩ := narrowed_high (by decide) hc₂
    have four := encodeChar_four (by omega) (by omega) hc₁ hc₂ needed exists_ hd₁ hd₂ he₁ he₂
    exact ⟨_, after, congrArg (· ++ after) four.symm, last rfl⟩

/-! ## Texts -/

/-- Sound bytes are encoded characters, and they are those that the machine has read. -/
theorem eq_encodeChars {bytes : Bytes} {read cs : List Char} (h : decodeFrom none read bytes = some cs) :
    ∃ more, cs = read.reverse ++ more ∧ bytes = encodeChars more := by
  -- The induction is on the length, because one step takes all the bytes of a character.
  match bytes with
  | [] =>
    cases h
    exact ⟨[], (List.append_nil _).symm, rfl⟩
  | b :: rest =>
    obtain ⟨c, after, hbytes, h⟩ := exists_encodeChar h
    have shorter : after.length < (b :: rest).length := by
      obtain ⟨first, others, shape, -⟩ := encodeCode_shape c.toNat c.valid
      rw [hbytes, encodeChar, shape, List.length_append, List.length_cons]
      omega
    obtain ⟨more, rfl, rfl⟩ := eq_encodeChars h
    refine ⟨c :: more, ?_, hbytes⟩
    rw [List.reverse_cons, List.append_assoc]
    rfl
termination_by bytes.length
decreasing_by exact shorter

/-- **Only the encoding of a text reads as the text.** There are no two ways to encode it, and what is not encoded
does not read as anything. -/
theorem decode?_eq_some_iff {bytes : Bytes} {text : String} :
    decode? bytes = some text ↔ bytes = encode text := by
  constructor
  · intro h
    obtain ⟨cs, hcs, rfl⟩ := Option.map_eq_some_iff.mp h
    obtain ⟨more, rfl, rfl⟩ := eq_encodeChars hcs
    rw [encode, String.toList_ofList]
  · rintro rfl
    exact decode?_encode text

/-- A character in front of encoded characters is the first of them. -/
theorem encodeChar_append_eq {c d : Char} {more : Bytes} {cs : List Char}
    (h : encodeChar c ++ more = encodeChars (d :: cs)) : c = d ∧ more = encodeChars cs := by
  have whole : decodeFrom none [c] more = some (d :: cs) := by
    have read := decodeFrom_encodeChars (d :: cs) [] []
    rw [List.append_nil, List.append_nil, ← h, decodeFrom_encodeChar] at read
    rw [read, decodeFrom, Option.isNone_none, if_pos rfl, List.reverse_reverse]
  obtain ⟨cs', heq, rfl⟩ := eq_encodeChars whole
  obtain ⟨rfl, rfl⟩ := List.cons.inj heq
  exact ⟨rfl, rfl⟩

end Relabel.Utf8
