import Relabel.Json.Number

/-!
# Number literals read back

A literal that is written and then scanned comes back part by part, provided that what follows could not
go on it: `scanUnsigned_literal`. `Stops` is that proviso, and it names all the bytes that could, since
each part of a literal is taken as far as it goes and the next part is looked for right behind it.

The other direction is about what the scan hands out: it always has the digits that the grammar asks for, and
it has taken at least one byte (`scanUnsigned_ok`).
-/

namespace Relabel

namespace Digit

theorem isDigit_toByte : ∀ d : Digit, Ascii.isDigit d.toByte = true := by decide

theorem ofByte_toByte : ∀ d : Digit, ofByte d.toByte = d := by decide

theorem toByte_eq_zero_iff : ∀ d : Digit, d.toByte = 0x30 ↔ d = 0 := by decide

/-- A digit's byte lies between those of zero and nine. -/
theorem isDigit_iff {b : UInt8} : Ascii.isDigit b = true ↔ 0x30 ≤ b.toNat ∧ b.toNat ≤ 0x39 := by
  simp only [Ascii.isDigit, Bool.and_eq_true, decide_eq_true_eq, UInt8.le_iff_toNat_le]
  rfl

theorem toByte_ofByte {b : UInt8} (h : Ascii.isDigit b = true) : (ofByte b).toByte = b := by
  have hb := isDigit_iff.mp h
  apply UInt8.toNat_inj.mp
  simp only [toByte, ofByte, Fin.ofNat, Nat.toUInt8, UInt8.toNat_ofNat']
  omega

/-- No digit goes on at the front of some bytes. -/
def Ends (rest : Bytes) : Prop := ∀ b ∈ rest.head?, Ascii.isDigit b = false

/-- **Written digits are taken as far as they go.** What follows them may be anything but one more digit, which would
be taken with them. -/
theorem span_append (ds : List Digit) {rest : Bytes} (h : Ends rest) :
    span (ds.map toByte ++ rest) = (ds, rest) := by
  have digits : ∀ b ∈ ds.map toByte, Ascii.isDigit b = true := by
    intro b hb
    obtain ⟨d, _, rfl⟩ := List.mem_map.mp hb
    exact isDigit_toByte d
  have back : (ds.map toByte).map ofByte = ds := by
    rw [List.map_map]
    exact (List.map_congr_left fun d _ => ofByte_toByte d).trans (List.map_id ds)
  rw [span, List.takeWhile_append_of_pos digits, List.dropWhile_append_of_pos digits]
  cases rest with
  | nil => simp only [List.takeWhile_nil, List.dropWhile_nil, List.append_nil, back]
  | cons b rest =>
    have hb : Ascii.isDigit b = false := h b rfl
    simp only [List.takeWhile_cons, List.dropWhile_cons, hb, Bool.false_eq_true, ↓reduceIte,
      List.append_nil, back]

/-- The digits taken and what is left are the bytes. -/
theorem span_eq (bytes : Bytes) : (span bytes).1.map toByte ++ (span bytes).2 = bytes := by
  have back : ∀ b ∈ bytes.takeWhile Ascii.isDigit, (ofByte b).toByte = b := fun b hb =>
    toByte_ofByte (List.all_eq_true.mp List.all_takeWhile b hb)
  rw [span, List.map_map]
  show List.map (fun b => (ofByte b).toByte) _ ++ _ = _
  rw [(List.map_congr_left back).trans (List.map_id _), List.takeWhile_append_dropWhile]

/-- A digit in front is taken, and what is left of the rest is what is left. -/
theorem span_cons {b : UInt8} (h : Ascii.isDigit b = true) (rest : Bytes) :
    span (b :: rest) = (ofByte b :: (span rest).1, (span rest).2) := by
  simp only [span, List.takeWhile_cons, List.dropWhile_cons, h, ↓reduceIte, List.map_cons]

end Digit

namespace Number

/-! ## Written literals are scanned -/

/-- Nothing at the front of some bytes could go on a literal: no digit, no point, no exponent. -/
def Stops (rest : Bytes) : Prop :=
  ∀ b ∈ rest.head?, Ascii.isDigit b = false ∧ b ≠ Ascii.dot ∧ b ≠ 0x65 ∧ b ≠ 0x45

theorem stops_nil : Stops [] := fun _ h => nomatch h

theorem stops_cons {b : UInt8} (rest : Bytes)
    (h : Ascii.isDigit b = false ∧ b ≠ Ascii.dot ∧ b ≠ 0x65 ∧ b ≠ 0x45) : Stops (b :: rest) := by
  intro c hc
  cases hc
  exact h

theorem Stops.ends {rest : Bytes} (h : Stops rest) : Digit.Ends rest := fun b hb => (h b hb).1

/-- What the literal of a number has behind its sign. -/
def unsignedLiteral (n : Number) : Bytes :=
  n.integer.map Digit.toByte ++ fractionLiteral n.fraction ++ exponentLiteral n.exponent

/-- A literal is its sign and what follows it. -/
theorem literal_eq (n : Number) :
    n.literal = (if n.negative then [Ascii.minus] else []) ++ n.unsignedLiteral := by
  simp only [literal, unsignedLiteral, List.append_assoc]

/-- What holds of the digits and of the four other bytes of a literal holds of all its bytes. -/
theorem forall_mem_literal {p : UInt8 → Prop} (digit : ∀ d : Digit, p d.toByte)
    (other : p Ascii.minus ∧ p Ascii.plus ∧ p Ascii.dot ∧ p 0x65) (n : Number) : ∀ b ∈ n.literal, p b := by
  obtain ⟨minus, plus, dot, letter⟩ := other
  have digits : ∀ ds : List Digit, ∀ b ∈ ds.map Digit.toByte, p b := by
    intro ds
    exact List.forall_mem_map.mpr fun d _ => digit d
  have sign : ∀ b ∈ (if n.negative then [Ascii.minus] else []), p b := by
    split
    · exact List.forall_mem_singleton.mpr minus
    · exact List.forall_mem_nil p
  have fraction : ∀ b ∈ fractionLiteral n.fraction, p b := by
    cases n.fraction with
    | nil => exact List.forall_mem_nil p
    | cons d ds => exact List.forall_mem_cons.mpr ⟨dot, digits (d :: ds)⟩
  have exponent : ∀ b ∈ exponentLiteral n.exponent, p b := by
    cases n.exponent with
    | none => exact List.forall_mem_nil p
    | some e =>
      refine List.forall_mem_cons.mpr ⟨letter, List.forall_mem_cons.mpr ⟨?_, digits e.digits⟩⟩
      split
      · exact minus
      · exact plus
  simp only [literal, List.forall_mem_append]
  exact ⟨⟨⟨sign, digits n.integer⟩, fraction⟩, exponent⟩

/-- A written exponent, or none, ends the digits before it. -/
theorem ends_exponentLiteral (e : Option Exponent) {rest : Bytes} (h : Stops rest) :
    Digit.Ends (exponentLiteral e ++ rest) := by
  cases e with
  | none => exact h.ends
  | some e => intro b hb; cases hb; rfl

/-- A written fraction, or none, ends the digits before it. -/
theorem ends_fractionLiteral (ds : List Digit) (e : Option Exponent) {rest : Bytes} (h : Stops rest) :
    Digit.Ends (fractionLiteral ds ++ (exponentLiteral e ++ rest)) := by
  cases ds with
  | nil => exact ends_exponentLiteral e h
  | cons d ds => intro b hb; cases hb; rfl

/-- The digits before the point are scanned: a zero alone, or digits that start with another one. -/
theorem scanInteger_append {ds : List Digit}
    (h : (match ds with | [] => false | d :: more => d != 0 || more.isEmpty) = true) {rest : Bytes}
    (ends : Digit.Ends rest) : scanInteger (ds.map Digit.toByte ++ rest) = .ok (ds, rest) := by
  cases ds with
  | nil => cases h
  | cons d more =>
    by_cases hd : d = 0
    · -- A zero is scanned without looking for digits behind it, so there must be none.
      subst hd
      have none_more : more = [] := by simpa using h
      subst none_more
      cases rest with
      | nil => rfl
      | cons b rest =>
        have hb : Ascii.isDigit b = false := ends b rfl
        show (if Ascii.isDigit b then _ else _) = _
        rw [hb]
        rfl
    · have hb : ¬ d.toByte = 0x30 := fun h' => hd ((Digit.toByte_eq_zero_iff d).mp h')
      have hs := Digit.span_append (d :: more) ends
      simp only [List.map_cons, List.cons_append] at hs ⊢
      simp only [scanInteger, if_neg hb, Digit.isDigit_toByte, ↓reduceIte, hs]

/-- The digits after the point are scanned, or their absence is seen. -/
theorem scanFraction_append (ds : List Digit) {rest : Bytes} (ends : Digit.Ends rest)
    (noPoint : ∀ b ∈ rest.head?, b ≠ Ascii.dot) :
    scanFraction (fractionLiteral ds ++ rest) = .ok (ds, rest) := by
  cases ds with
  | nil =>
    cases rest with
    | nil => rfl
    | cons b rest =>
      show (if b = Ascii.dot then _ else _) = _
      rw [if_neg (noPoint b rfl)]
  | cons d ds =>
    have hs := Digit.span_append (d :: ds) ends
    simp only [fractionLiteral, List.cons_append, scanFraction, ↓reduceIte, hs]

/-- A sign is seen, and the digits behind it are scanned. -/
theorem scanExponent_append {e : Option Exponent}
    (h : (match e with | none => true | some e => !e.digits.isEmpty) = true) {rest : Bytes}
    (stops : Stops rest) : scanExponent (exponentLiteral e ++ rest) = .ok (e, rest) := by
  cases e with
  | none =>
    cases rest with
    | nil => rfl
    | cons b rest =>
      obtain ⟨-, -, lower, upper⟩ := stops b rfl
      simp only [exponentLiteral, List.nil_append, scanExponent, lower, upper, decide_false,
        Bool.or_self, Bool.false_eq_true, ↓reduceIte]
  | some e =>
    obtain ⟨negative, digits⟩ := e
    cases digits with
    | nil => cases h
    | cons d ds =>
      have hs := Digit.span_append (d :: ds) stops.ends
      simp only [List.map_cons, List.cons_append] at hs
      cases negative <;>
        simp [exponentLiteral, scanExponent, Digit.isDigit_toByte, hs, Ascii.plus, Ascii.minus]

/-- **A written literal is scanned back**, behind its sign and before whatever follows that could not go on it. Each
part is scanned as far as it goes, and what comes next ends it: the point or the letter of an exponent, if there is
one, or what follows the number. -/
theorem scanUnsigned_literal {n : Number} (h : n.wellFormed = true) {rest : Bytes}
    (stops : Stops rest) :
    scanUnsigned n.negative (n.unsignedLiteral ++ rest) = .ok (n, rest) := by
  simp only [wellFormed, Bool.and_eq_true] at h
  -- A fraction that was left out must not be seen: the exponent or the rest starts with no point.
  have noPoint : ∀ b ∈ (exponentLiteral n.exponent ++ rest).head?, b ≠ Ascii.dot := by
    cases n.exponent with
    | none => exact fun b hb => (stops b hb).2.1
    | some e => intro b hb; cases hb; decide
  simp only [scanUnsigned, unsignedLiteral, List.append_assoc,
    scanInteger_append h.1 (ends_fractionLiteral n.fraction n.exponent stops),
    scanFraction_append n.fraction (ends_exponentLiteral n.exponent stops) noPoint,
    scanExponent_append h.2 stops]

/-! ## Scanned literals are written -/

/-- The parts of a literal of the grammar: some digits before the point, a zero in front standing alone,
and some digits in an exponent. -/
theorem wellFormed_iff {n : Number} :
    n.wellFormed = true ↔
      (∃ d more, n.integer = d :: more ∧ (d = 0 → more = [])) ∧
        ∀ e, n.exponent = some e → e.digits ≠ [] := by
  obtain ⟨negative, integer, fraction, exponent⟩ := n
  simp only [wellFormed, Bool.and_eq_true]
  refine and_congr ?_ ?_
  · cases integer with
    | nil => simp only [Bool.false_eq_true, reduceCtorEq, false_and, exists_false]
    | cons d more =>
      simp only [Bool.or_eq_true, bne_iff_ne, ne_eq, List.isEmpty_iff, List.cons.injEq]
      constructor
      · intro h
        exact ⟨d, more, ⟨rfl, rfl⟩, fun hd => h.resolve_left (not_not_intro hd)⟩
      · rintro ⟨_, _, ⟨rfl, rfl⟩, alone⟩
        exact (Decidable.em (d = 0)).elim (fun hd => .inr (alone hd)) .inl
  · cases exponent <;> simp

/-- What is scanned before the point are some digits, a zero in front standing alone, and they are the
bytes taken. -/
theorem scanInteger_ok {bytes rest : Bytes} {ds : List Digit} (h : scanInteger bytes = .ok (ds, rest)) :
    bytes = ds.map Digit.toByte ++ rest ∧ ∃ d more, ds = d :: more ∧ (d = 0 → more = []) := by
  cases bytes with
  | nil => cases h
  | cons b tail =>
    simp only [scanInteger] at h
    split at h
    · next hb =>
      subst hb
      cases tail with
      | nil =>
        cases h
        exact ⟨rfl, 0, [], rfl, fun _ => rfl⟩
      | cons c tail =>
        simp only at h
        split at h
        · cases h
        · cases h
          exact ⟨rfl, 0, [], rfl, fun _ => rfl⟩
    split at h
    · next hb hd =>
      have hs := Digit.span_eq (b :: tail)
      rw [Except.ok.inj h] at hs
      have first := congrArg Prod.fst (Except.ok.inj h)
      rw [Digit.span_cons hd] at first
      refine ⟨hs.symm, Digit.ofByte b, _, first.symm, fun h0 => absurd ?_ hb⟩
      rw [← Digit.toByte_ofByte hd, h0]
      rfl
    · cases h

/-- What is scanned as a fraction is the bytes taken. -/
theorem scanFraction_ok {bytes rest : Bytes} {ds : List Digit}
    (h : scanFraction bytes = .ok (ds, rest)) : bytes = fractionLiteral ds ++ rest := by
  cases bytes with
  | nil => cases h; rfl
  | cons b tail =>
    simp only [scanFraction] at h
    split at h
    · next hb =>
      have hs := Digit.span_eq tail
      subst hb
      split at h
      · cases h
      · cases h
      · next d more after heq =>
        cases h
        rw [heq] at hs
        rw [← hs]
        rfl
    · cases h; rfl

/-- Behind the letter of an exponent a sign may stand; digits must follow. -/
theorem scanExponent_letter {b : UInt8} (hb : (b = 0x65 || b = 0x45) = true) (tail : Bytes) :
    ∃ negative after, after <:+ tail ∧ scanExponent (b :: tail) =
      match after with
      | [] => .error ⟨.ended, [], false⟩
      | d :: more =>
        if Ascii.isDigit d then
          .ok (some ⟨negative, (Digit.span (d :: more)).1⟩, (Digit.span (d :: more)).2)
        else .error ⟨.malformed, more, false⟩ := by
  simp only [scanExponent, if_pos hb]
  cases tail with
  | nil => exact ⟨false, [], List.suffix_rfl, rfl⟩
  | cons s after =>
    by_cases minus : s = Ascii.minus
    · subst minus
      exact ⟨true, after, List.suffix_cons _ _, by cases after <;> rfl⟩
    by_cases plus : s = Ascii.plus
    · subst plus
      exact ⟨false, after, List.suffix_cons _ _, by cases after <;> rfl⟩
    · exact ⟨false, s :: after, List.suffix_rfl, by simp only [if_neg minus, if_neg plus]⟩

/-- What is scanned as an exponent has digits, and what is left is an end of the bytes. -/
theorem scanExponent_ok {bytes rest : Bytes} {e : Option Exponent}
    (h : scanExponent bytes = .ok (e, rest)) : rest <:+ bytes ∧ ∀ x, e = some x → x.digits ≠ [] := by
  cases bytes with
  | nil => cases h; exact ⟨List.suffix_rfl, fun _ hx => nomatch hx⟩
  | cons b tail =>
    by_cases hb : (b = 0x65 || b = 0x45) = true
    · obtain ⟨negative, after, unsigned, heq⟩ := scanExponent_letter hb tail
      rw [heq] at h
      cases after with
      | nil => cases h
      | cons d more =>
        by_cases hd : Ascii.isDigit d = true
        · simp only [if_pos hd] at h
          cases h
          refine ⟨(List.dropWhile_suffix _).trans (unsigned.trans (List.suffix_cons _ _)), ?_⟩
          rintro _ ⟨⟩
          simp only [Digit.span_cons hd, ne_eq, reduceCtorEq, not_false_eq_true]
        · simp only [if_neg hd] at h
          cases h
    · simp only [scanExponent, if_neg hb] at h
      cases h
      exact ⟨List.suffix_rfl, fun _ hx => nomatch hx⟩

/-- **A scanned literal is one of the grammar**, and what is left is a proper end of the bytes. So a number that was
scanned can be written again, and a reader that scans numbers gets on. -/
theorem scanUnsigned_ok {negative : Bool} {bytes rest : Bytes} {n : Number}
    (h : scanUnsigned negative bytes = .ok (n, rest)) :
    n.wellFormed = true ∧ n.negative = negative ∧ rest.length < bytes.length := by
  simp only [scanUnsigned] at h
  split at h
  · cases h
  next integer afterInteger hi =>
    split at h
    · cases h
    next fraction afterFraction hf =>
      split at h
      · cases h
      next exponent afterExponent he =>
        cases h
        obtain ⟨hbytes, d, more, rfl, alone⟩ := scanInteger_ok hi
        obtain ⟨hrest, digits⟩ := scanExponent_ok he
        refine ⟨wellFormed_iff.mpr ⟨⟨d, more, rfl, alone⟩, digits⟩, rfl, ?_⟩
        have length := hrest.length_le
        rw [hbytes, scanFraction_ok hf]
        simp only [List.length_append, List.length_map, List.length_cons]
        omega

end Number
end Relabel
