import Relabel.Proofs.Json.Escape
import Relabel.Proofs.Json.Standard
import Relabel.Proofs.Text.Decoding

/-!
# The reader's tokens are the standard's

White space, strings, numbers and names, each in both directions: where the standard has one the reader reads it,
and what the reader reads is one of the standard's.

Strings are where the two look at a text differently. The standard goes character by character, and a character is
either written as it is or escaped. The reader collects bytes, from the text and out of escapes alike, and asks in
the end whether all of them together are UTF-8. So it has to be ruled out that some bytes of the text and the bytes
of an escape make a character between them (`body_of_continuation`): an escape stands for a whole character, and
whole characters start with no byte that could go on another. With that, `body_iff` is an induction on the
characters.

Numbers have one freedom that their literals do not keep, the spelling of the exponent. `scan_of_power` and
`power_of_scan` are about that; the other parts are spelled in one way only.
-/

namespace Relabel
namespace Standard

open Grammar Reader

variable {bytes gap rest : Bytes}

/-! ## White space -/

theorem isBlank_iff {b : UInt8} :
    isBlank b = true ↔ b = Ascii.space ∨ b = Ascii.tab ∨ b = Ascii.lineFeed ∨ b = Ascii.carriageReturn := by
  simp only [isBlank, Bool.or_eq_true, decide_eq_true_eq, or_assoc]
  exact or_congr_right or_left_comm

theorem skipBlank_append (h : Blank gap) (bytes : Bytes) : skipBlank (gap ++ bytes) = skipBlank bytes :=
  List.dropWhile_append_of_pos fun b hb => isBlank_iff.mpr (h b hb)

theorem blank_nil : Blank [] := fun _ h => nomatch h

theorem exists_gap (bytes : Bytes) : ∃ gap, Blank gap ∧ bytes = gap ++ skipBlank bytes := by
  refine ⟨bytes.takeWhile isBlank, fun b hb => ?_, List.takeWhile_append_dropWhile.symm⟩
  exact isBlank_iff.mp (List.all_eq_true.mp List.all_takeWhile b hb)

theorem skipBlank_eq_nil_iff : skipBlank bytes = [] ↔ Blank bytes := by
  constructor
  · intro h
    obtain ⟨gap, blank, hbytes⟩ := exists_gap bytes
    rw [h, List.append_nil] at hbytes
    exact hbytes ▸ blank
  · intro h
    have skipped := skipBlank_append h []
    rw [List.append_nil] at skipped
    exact skipped

/-! ## Characters -/

theorem plainEscape?_eq (b : UInt8) : plainEscape? b = (letterEscape? b).map Ascii.byte := by
  unfold plainEscape? letterEscape?
  repeat' split
  all_goals rfl

theorem encodeChar_of_lt {c : Char} (h : c.toNat < 0x80) : Utf8.encodeChar c = [Ascii.byte c] := by
  rw [Utf8.encodeChar, Utf8.encodeCode, if_pos h, Ascii.byte]

theorem encodeChar_of_letterEscape {b : UInt8} {c : Char} (h : letterEscape? b = some c) :
    Utf8.encodeChar c = [Ascii.byte c] := by
  apply encodeChar_of_lt
  unfold letterEscape? at h
  repeat' split at h
  all_goals cases h
  all_goals decide

/-- Four digits are read as a code unit exactly if the standard has them for it. -/
theorem hexUnit?_eq_some_iff {a b c d : UInt8} {code : Nat} :
    hexUnit? a b c d = some code ↔ CodeUnit [a, b, c, d] code := by
  simp only [hexUnit?, Option.bind_eq_bind, Option.bind_eq_some_iff]
  constructor
  · rintro ⟨i, hi, j, hj, k, hk, l, hl, hcode⟩
    have value : code = 4096 * i + 256 * j + 16 * k + l := by
      have := Option.some.inj hcode
      omega
    rw [value]
    exact .mk hi hj hk hl
  · rintro ⟨hi, hj, hk, hl⟩
    refine ⟨_, hi, _, hj, _, hk, _, hl, congrArg some ?_⟩
    omega

theorem exists_of_codeUnit {digits : Bytes} {code : Nat} (h : CodeUnit digits code) :
    ∃ a b c d, digits = [a, b, c, d] ∧ hexUnit? a b c d = some code := by
  cases h with
  | mk hi hj hk hl => exact ⟨_, _, _, _, rfl, hexUnit?_eq_some_iff.mpr (.mk hi hj hk hl)⟩

theorem hexValue?_lt {b : UInt8} {n : Nat} (h : Ascii.hexValue? b = some n) : n < 16 := by
  unfold Ascii.hexValue? at h
  simp only [Bool.and_eq_true, decide_eq_true_eq, UInt8.le_iff_toNat_le, UInt8.reduceToNat] at h
  split at h
  · cases h
    omega
  split at h
  · cases h
    omega
  split at h
  · cases h
    omega
  · cases h

theorem hexUnit?_lt {a b c d : UInt8} {code : Nat} (h : hexUnit? a b c d = some code) : code < 0x10000 := by
  obtain ⟨ha, hb, hc, hd⟩ := hexUnit?_eq_some_iff.mp h
  have := hexValue?_lt ha
  have := hexValue?_lt hb
  have := hexValue?_lt hc
  have := hexValue?_lt hd
  omega

theorem body_of_large {k after more : Bytes} (h : ∀ b ∈ k, 0x80 ≤ b.toNat)
    (body : StringBody after more rest) : StringBody (k ++ after) (k ++ more) rest := by
  induction k with
  | nil => exact body
  | cons b k ih =>
    have large := h b List.mem_cons_self
    have ne : ∀ c : UInt8, c.toNat < 0x80 → b ≠ c := by
      rintro c hc rfl
      omega
    refine .plain (ne _ (by decide)) (ne _ (by decide)) ?_ (ih fun c hc => h c (List.mem_cons_of_mem b hc))
    exact Utf8.not_lt_of_toNat_le (Nat.le_trans (by decide) large)

/-- A character of the standard is read as its bytes, whether it stands for itself or is escaped. -/
theorem body_of_character {piece after more : Bytes} {c : Char} (h : Character piece c)
    (body : StringBody after more rest) : StringBody (piece ++ after) (Utf8.encodeChar c ++ more) rest := by
  cases h with
  | plain notControl notQuote notBackslash =>
    obtain ⟨b, k, shape, -, continuation, kind⟩ := Utf8.encodeCode_shape c.toNat c.valid
    rcases kind with ⟨small, number, rfl⟩ | ⟨-, large⟩
    · -- An ASCII character is its own byte.
      have ne : ∀ d : Char, c ≠ d → c.toNat ≠ d.toNat := fun d hd same => hd (Char.toNat_inj.mp same)
      have hb : ∀ e : UInt8, c.toNat ≠ e.toNat → b ≠ e := by
        rintro e he rfl
        exact he number.symm
      rw [Utf8.encodeChar, shape]
      refine .plain (hb _ (ne '\x22' notQuote)) (hb _ (ne '\\' notBackslash)) ?_ body
      exact Utf8.not_lt_of_toNat_le (number ▸ notControl)
    · apply body_of_large _ body
      rw [Utf8.encodeChar, shape]
      intro d hd
      rcases List.mem_cons.mp hd with rfl | hd
      · exact large
      · exact (continuation d hd).1
  | letter hl =>
    rw [encodeChar_of_letterEscape hl]
    exact .escape (.letter (by rw [plainEscape?_eq, hl]; rfl)) body
  | @unit _ code hu scalar =>
    obtain ⟨a, b, c, d, rfl, hunit⟩ := exists_of_codeUnit hu
    have small := hexUnit?_lt hunit
    have valid : code.isValidChar := show code < 0xd800 ∨ 0xdfff < code ∧ code < 0x110000 by omega
    rw [Utf8.encodeChar_ofNat valid]
    refine .escape (.unit hunit ?_ ?_) body
    · rw [Bool.eq_false_iff, ne_eq, Escape.isLowSurrogate_iff]
      omega
    · rw [Bool.eq_false_iff, ne_eq, Escape.isHighSurrogate_iff]
      omega
  | @pair _ _ high low hh high_lt hl low_lt =>
    obtain ⟨a, b, c, d, rfl, hhigh⟩ := exists_of_codeUnit hh
    obtain ⟨a', b', c', d', rfl, hlow⟩ := exists_of_codeUnit hl
    have valid : (0x10000 + 0x400 * high + low).isValidChar := .inr (by omega)
    have code : pairCode (0xd800 + high) (0xdc00 + low) = 0x10000 + 0x400 * high + low := by
      rw [pairCode]
      omega
    rw [Utf8.encodeChar_ofNat valid, ← code]
    refine .escape (.pair hhigh ?_ hlow ?_) body
    · rw [Escape.isHighSurrogate_iff]
      omega
    · rw [Escape.isLowSurrogate_iff]
      omega

/-- What an escape stands for is a character of the standard. -/
theorem character_of_escaped {meaning : Bytes} (h : Escaped bytes meaning rest) :
    ∃ piece c, Character (Ascii.backslash :: piece) c ∧ bytes = piece ++ rest ∧
      meaning = Utf8.encodeChar c := by
  cases h with
  | letter hp =>
    rw [plainEscape?_eq] at hp
    obtain ⟨c, hc, rfl⟩ := Option.map_eq_some_iff.mp hp
    exact ⟨[_], c, .letter hc, rfl, (encodeChar_of_letterEscape hc).symm⟩
  | @unit _ _ _ _ code _ hunit notLow notHigh =>
    have small := hexUnit?_lt hunit
    rw [Bool.eq_false_iff, ne_eq, Escape.isLowSurrogate_iff] at notLow
    rw [Bool.eq_false_iff, ne_eq, Escape.isHighSurrogate_iff] at notHigh
    have valid : code.isValidChar := show code < 0xd800 ∨ 0xdfff < code ∧ code < 0x110000 by omega
    exact ⟨_, _, .unit (hexUnit?_eq_some_iff.mp hunit) (by omega), rfl, (Utf8.encodeChar_ofNat valid).symm⟩
  | @pair a b c d a' b' c' d' unit unit' _ hhigh high hlow low =>
    have high := Escape.isHighSurrogate_iff.mp high
    have low := Escape.isLowSurrogate_iff.mp low
    obtain ⟨x, rfl⟩ := Nat.exists_eq_add_of_le high.1
    obtain ⟨y, rfl⟩ := Nat.exists_eq_add_of_le low.1
    have valid : (0x10000 + 0x400 * x + y).isValidChar := .inr (by omega)
    have code : pairCode (0xd800 + x) (0xdc00 + y) = 0x10000 + 0x400 * x + y := by
      rw [pairCode]
      omega
    refine ⟨_, _, .pair (hexUnit?_eq_some_iff.mp hhigh) (by omega) (hexUnit?_eq_some_iff.mp hlow) (by omega),
      rfl, ?_⟩
    rw [code, Utf8.encodeChar_ofNat valid]

/-- A character stands for itself if its byte may, or if it is beyond ASCII. -/
theorem character_of_plain {b : UInt8} {c : Char} (notQuote : b ≠ Ascii.quote)
    (notBackslash : b ≠ Ascii.backslash) (notControl : ¬ b < 0x20) (h : b.toNat = c.toNat ∨ 0x80 ≤ c.toNat) :
    Character (Utf8.encodeChar c) c := by
  have notControl : 0x20 ≤ b.toNat := Nat.not_lt.mp fun h => notControl (UInt8.lt_iff_toNat_lt.mpr h)
  refine .plain (by omega) ?_ ?_
  · rintro rfl
    rcases h with same | large
    · exact notQuote (UInt8.toNat_inj.mp same)
    · exact absurd large (by decide)
  · rintro rfl
    rcases h with same | large
    · exact notBackslash (UInt8.toNat_inj.mp same)
    · exact absurd large (by decide)

/-! ## Strings -/

/-- Inside a string the bytes that go on a character stand for themselves: an escape stands for a character,
and no character starts with one of them. -/
theorem body_of_continuation {k more : Bytes} (h : ∀ b ∈ k, Utf8.IsContinuation b)
    (body : StringBody bytes (k ++ more) rest) :
    ∃ after, bytes = k ++ after ∧ StringBody after more rest := by
  induction k generalizing bytes with
  | nil => exact ⟨bytes, rfl, body⟩
  | cons b k ih =>
    generalize hm : b :: k ++ more = meaning at body
    cases body with
    | close => cases hm
    | escape he _ =>
      obtain ⟨piece, c, -, -, rfl⟩ := character_of_escaped he
      obtain ⟨first, others, shape, start, -⟩ := Utf8.encodeCode_shape c.toNat c.valid
      rw [Utf8.encodeChar, shape] at hm
      obtain ⟨rfl, -⟩ := List.cons.inj hm
      exact absurd (h b List.mem_cons_self) start
    | plain _ _ _ others =>
      obtain ⟨rfl, rfl⟩ := List.cons.inj hm
      obtain ⟨after, rfl, behind⟩ := ih (fun c hc => h c (List.mem_cons_of_mem b hc)) others
      exact ⟨after, rfl, behind⟩

/-- **Characters are read as the standard has them.** The induction is on the characters: each of them is the meaning
of one escape, or of bytes that stand for themselves. The reader goes byte by byte and does not know where a character
ends, but it cannot stop within one and go on with an escape (`body_of_continuation`). -/
theorem body_iff {cs : List Char} :
    StringBody bytes (Utf8.encodeChars cs) rest ↔
      ∃ inner, Characters inner cs ∧ bytes = inner ++ Ascii.quote :: rest := by
  constructor
  · intro h
    induction cs generalizing bytes with
    | nil =>
      generalize hm : Utf8.encodeChars [] = meaning at h
      cases h with
      | close => exact ⟨[], .nil, rfl⟩
      | escape he _ =>
        obtain ⟨piece, c, -, -, rfl⟩ := character_of_escaped he
        obtain ⟨first, others, shape, -⟩ := Utf8.encodeCode_shape c.toNat c.valid
        rw [Utf8.encodeChar, shape] at hm
        cases hm
      | plain => cases hm
    | cons c cs ih =>
      generalize hm : Utf8.encodeChars (c :: cs) = meaning at h
      cases h with
      | close =>
        obtain ⟨first, others, shape, -⟩ := Utf8.encodeCode_shape c.toNat c.valid
        rw [Utf8.encodeChars, List.flatMap_cons, Utf8.encodeChar, shape] at hm
        cases hm
      | escape he body =>
        obtain ⟨piece, c', character, rfl, rfl⟩ := character_of_escaped he
        obtain ⟨rfl, rfl⟩ := Utf8.encodeChar_append_eq hm.symm
        obtain ⟨inner, characters, rfl⟩ := ih body
        exact ⟨_, .cons character characters, by rw [List.append_assoc]; rfl⟩
      | plain notQuote notBackslash notControl others =>
        obtain ⟨first, k, shape, -, continuation, kind⟩ := Utf8.encodeCode_shape c.toNat c.valid
        rw [Utf8.encodeChars, List.flatMap_cons, Utf8.encodeChar, shape] at hm
        obtain ⟨rfl, rfl⟩ := List.cons.inj hm
        obtain ⟨after, rfl, behind⟩ := body_of_continuation continuation others
        obtain ⟨inner, characters, rfl⟩ := ih behind
        have character := character_of_plain notQuote notBackslash notControl (kind.imp (·.2.1) (·.1))
        refine ⟨_, .cons character characters, ?_⟩
        rw [Utf8.encodeChar, shape, List.append_assoc]
        rfl
  · rintro ⟨inner, characters, rfl⟩
    induction characters with
    | nil => exact .close
    | cons character _ ih =>
      rw [List.append_assoc, Utf8.encodeChars, List.flatMap_cons]
      exact body_of_character character ih

/-- **A string is read as the standard has it.** -/
theorem text_iff {s : String} :
    Grammar.Text bytes s rest ↔ ∃ inner, Characters inner s.toList ∧ bytes = inner ++ Ascii.quote :: rest := by
  simp only [Grammar.Text, Utf8.decode?_eq_some_iff, exists_eq_right, Utf8.encode, body_iff]

/-! ## Numbers -/

section

variable {i f e : Bytes} {integer fraction : List Digit} {exponent : Option Exponent}

theorem scan_of_integer (h : Integer i integer) (ends : Digit.Ends rest) :
    Number.scanInteger (i ++ rest) = .ok (integer, rest) := by
  cases h with
  | zero => exact @Number.scanInteger_append [0] rfl rest ends
  | @digits d ds nonzero => exact @Number.scanInteger_append (d :: ds) (by simp [nonzero]) rest ends

theorem integer_of_scan (h : Number.scanInteger bytes = .ok (integer, rest)) :
    ∃ i, Integer i integer ∧ bytes = i ++ rest := by
  obtain ⟨hbytes, d, more, rfl, alone⟩ := Number.scanInteger_ok h
  refine ⟨_, ?_, hbytes⟩
  by_cases hd : d = 0
  · rw [alone hd, hd]
    exact .zero
  · exact .digits hd

theorem fraction_iff : Fraction f fraction ↔ f = Number.fractionLiteral fraction := by
  constructor
  · intro h
    cases h <;> rfl
  · rintro rfl
    cases fraction with
    | nil => exact .none
    | cons d ds => exact .digits

/-- An exponent of the standard is scanned, with either letter and with any sign or none. -/
theorem scan_of_power (h : Power e exponent) (stops : Number.Stops rest) :
    Number.scanExponent (e ++ rest) = .ok (exponent, rest) := by
  cases h with
  | none => exact @Number.scanExponent_append none rfl rest stops
  | @digits letter sign negative d ds hletter hsign =>
    have hs := Digit.span_append (d :: ds) stops.ends
    have isLetter : (letter = 0x65 || letter = 0x45) = true := by
      rcases hletter with rfl | rfl <;> rfl
    have notMinus : ∀ d : Digit, d.toByte ≠ Ascii.minus := by decide
    have notPlus : ∀ d : Digit, d.toByte ≠ Ascii.plus := by decide
    simp only [List.map_cons, List.cons_append] at hs
    simp only [List.cons_append, List.append_assoc, Number.scanExponent, isLetter, ↓reduceIte, List.map_cons]
    cases hsign with
    | none =>
      simp only [List.nil_append, if_neg (notMinus d), if_neg (notPlus d), Digit.isDigit_toByte, ↓reduceIte, hs]
    | plus =>
      have differ : ¬ Ascii.plus = Ascii.minus := by decide
      simp only [List.cons_append, List.nil_append, if_neg differ, ↓reduceIte, Digit.isDigit_toByte, hs]
    | minus => simp only [List.cons_append, List.nil_append, ↓reduceIte, Digit.isDigit_toByte, hs]

/-- Behind an exponent's letter there is a sign or none. -/
theorem exists_sign (tail : Bytes) :
    ∃ sign negative after, Sign sign negative ∧ tail = sign ++ after ∧
      ∀ letter : UInt8, (letter = 0x65 || letter = 0x45) = true →
        Number.scanExponent (letter :: tail) =
          match after with
          | [] => .error ⟨.ended, [], false⟩
          | d :: more =>
            if Ascii.isDigit d then
              .ok (some ⟨negative, (Digit.span (d :: more)).1⟩, (Digit.span (d :: more)).2)
            else .error ⟨.malformed, more, false⟩ := by
  cases tail with
  | nil => exact ⟨[], false, [], .none, rfl, fun _ h => by simp only [Number.scanExponent, if_pos h]⟩
  | cons s after =>
    by_cases minus : s = Ascii.minus
    · subst minus
      exact ⟨_, true, after, .minus, rfl, fun _ h => by simp only [Number.scanExponent, if_pos h]; rfl⟩
    by_cases plus : s = Ascii.plus
    · subst plus
      exact ⟨_, false, after, .plus, rfl, fun _ h => by simp only [Number.scanExponent, if_pos h]; rfl⟩
    · refine ⟨[], false, s :: after, .none, rfl, fun _ h => ?_⟩
      simp only [Number.scanExponent, if_pos h, if_neg minus, if_neg plus]

theorem power_of_scan (h : Number.scanExponent bytes = .ok (exponent, rest)) :
    ∃ e, Power e exponent ∧ bytes = e ++ rest := by
  cases bytes with
  | nil =>
    cases h
    exact ⟨[], .none, rfl⟩
  | cons letter tail =>
    by_cases hletter : (letter = 0x65 || letter = 0x45) = true
    · obtain ⟨sign, negative, after, hsign, rfl, scan⟩ := exists_sign tail
      rw [scan letter hletter] at h
      cases after with
      | nil => cases h
      | cons d more =>
        by_cases hd : Ascii.isDigit d = true
        · simp only [if_pos hd, Digit.span_cons hd] at h
          cases h
          have whole := Digit.span_eq (d :: more)
          rw [Digit.span_cons hd] at whole
          have isLetter : letter = 0x65 ∨ letter = 0x45 := by simpa using hletter
          refine ⟨_, .digits isLetter hsign, ?_⟩
          rw [List.cons_append, List.append_assoc, whole]
        · simp only [if_neg hd] at h
          cases h
    · simp only [Number.scanExponent, if_neg hletter] at h
      cases h
      exact ⟨[], .none, rfl⟩

theorem ends_power (h : Power e exponent) (stops : Number.Stops rest) :
    ∀ b ∈ (e ++ rest).head?, Ascii.isDigit b = false ∧ b ≠ Ascii.dot := by
  cases h with
  | none => exact fun b hb => ⟨(stops b hb).1, (stops b hb).2.1⟩
  | digits hletter _ =>
    intro b hb
    cases hb
    rcases hletter with rfl | rfl <;> decide

theorem ends_fraction (h : Fraction f fraction) (he : Power e exponent) (stops : Number.Stops rest) :
    Digit.Ends (f ++ (e ++ rest)) := by
  cases h with
  | none => exact fun b hb => (ends_power he stops b hb).1
  | digits => intro b hb; cases hb; rfl

/-- **The parts of a number are scanned**, behind its sign and before what could not go on it. Each part is followed
by the beginning of the next one that there is, and by that it is ended. -/
theorem scan_of_parts (hi : Integer i integer) (hf : Fraction f fraction) (he : Power e exponent)
    (stops : Number.Stops rest) (negative : Bool) :
    Number.scanUnsigned negative (i ++ (f ++ (e ++ rest))) =
      .ok (⟨negative, integer, fraction, exponent⟩, rest) := by
  have scanned := scan_of_integer hi (ends_fraction hf he stops)
  rw [fraction_iff.mp hf] at scanned ⊢
  have point := ends_power he stops
  simp only [Number.scanUnsigned, scanned, scan_of_power he stops,
    Number.scanFraction_append fraction (fun b hb => (point b hb).1) (fun b hb => (point b hb).2)]

/-- **What is scanned are the parts of a number.** -/
theorem parts_of_scan {negative : Bool} {n : Number}
    (h : Number.scanUnsigned negative bytes = .ok (n, rest)) :
    n.negative = negative ∧ ∃ i f e, Integer i n.integer ∧ Fraction f n.fraction ∧ Power e n.exponent ∧
      bytes = i ++ (f ++ (e ++ rest)) := by
  simp only [Number.scanUnsigned] at h
  split at h
  · cases h
  next integer afterInteger hi =>
    split at h
    · cases h
    next fraction afterFraction hf =>
      split at h
      · cases h
      next exponent afterExponent he =>
        cases h
        obtain ⟨i, isInteger, rfl⟩ := integer_of_scan hi
        obtain ⟨e, isPower, rfl⟩ := power_of_scan he
        exact ⟨rfl, i, _, e, isInteger, fraction_iff.mpr rfl, isPower, by rw [Number.scanFraction_ok hf]⟩

/-- **A number is read as the standard has it**, before what could not go on it. -/
theorem phrase_of_numeral {depth : Nat} {n : Number} (h : Numeral bytes n) (stops : Number.Stops rest) :
    Phrase depth (bytes ++ rest) (.value (.number n)) rest := by
  cases h with
  | @positive i _ _ _ _ _ hi hf he =>
    have scanned := scan_of_parts hi hf he stops false
    have front : ∃ d : Digit, ∃ tail, i = d.toByte :: tail := by
      cases hi with
      | zero => exact ⟨0, _, rfl⟩
      | digits => exact ⟨_, _, rfl⟩
    have notBlank : ∀ d : Digit, isBlank d.toByte = false := by decide
    obtain ⟨d, tail, rfl⟩ := front
    simp only [List.append_assoc, List.cons_append] at scanned ⊢
    refine .positive ?_ (Digit.isDigit_toByte d) scanned
    simp only [skipBlank, List.dropWhile_cons, notBlank, Bool.false_eq_true, ↓reduceIte]
  | negative hi hf he =>
    have scanned := scan_of_parts hi hf he stops true
    simp only [List.append_assoc, List.cons_append]
    exact .negative rfl scanned

/-- What is scanned is a number of the standard, with its sign. -/
theorem numeral_of_scan {negative : Bool} {n : Number}
    (h : Number.scanUnsigned negative bytes = .ok (n, rest)) :
    ∃ literal, Numeral literal n ∧
      (if negative then [Ascii.minus] else []) ++ bytes = literal ++ rest := by
  obtain ⟨rfl, i, f, e, hi, hf, he, rfl⟩ := parts_of_scan h
  obtain ⟨negative, integer, fraction, exponent⟩ := n
  cases negative with
  | true => exact ⟨_, .negative hi hf he, by simp⟩
  | false => exact ⟨_, .positive hi hf he, by simp⟩

/-- What holds of the digits and of the five other bytes of numerals holds of all their bytes. -/
theorem forall_mem_numeral {p : UInt8 → Prop} (digit : ∀ d : Digit, p d.toByte)
    (other : p Ascii.minus ∧ p Ascii.plus ∧ p Ascii.dot ∧ p (Ascii.byte 'e') ∧ p (Ascii.byte 'E')) {n : Number}
    (h : Numeral bytes n) : ∀ b ∈ bytes, p b := by
  obtain ⟨hminus, hplus, hdot, lower, upper⟩ := other
  have digits : ∀ ds : List Digit, ∀ b ∈ ds.map Digit.toByte, p b := by
    intro ds
    exact List.forall_mem_map.mpr fun d _ => digit d
  have sign {s : Bytes} {negative : Bool} (h : Sign s negative) : ∀ b ∈ s, p b := by
    cases h with
    | none => exact List.forall_mem_nil p
    | plus => exact List.forall_mem_singleton.mpr hplus
    | minus => exact List.forall_mem_singleton.mpr hminus
  have unsigned {i f e : Bytes} {integer fraction : List Digit} {exponent : Option Exponent}
      (hi : Integer i integer) (hf : Fraction f fraction) (he : Power e exponent) : ∀ b ∈ i ++ (f ++ e), p b := by
    refine List.forall_mem_append.mpr ⟨?_, List.forall_mem_append.mpr ⟨?_, ?_⟩⟩
    · cases hi with
      | zero => exact digits [0]
      | digits => exact digits _
    · cases hf with
      | none => exact List.forall_mem_nil p
      | digits => exact List.forall_mem_cons.mpr ⟨hdot, digits _⟩
    · cases he with
      | none => exact List.forall_mem_nil p
      | digits letter hs =>
        refine List.forall_mem_cons.mpr ⟨?_, List.forall_mem_append.mpr ⟨sign hs, digits _⟩⟩
        rcases letter with rfl | rfl
        · exact lower
        · exact upper
  cases h with
  | positive hi hf he => exact unsigned hi hf he
  | negative hi hf he => exact List.forall_mem_cons.mpr ⟨hminus, unsigned hi hf he⟩

end

/-! ## Names -/

/-- A name and its colon are read as the standard has them. -/
theorem exists_of_lead {lead : Bytes} {name : String} (h : Lead lead name) (bytes : Bytes) :
    ∃ afterQuote afterName afterColon, lead ++ bytes = Ascii.quote :: afterQuote ∧
      Grammar.Text afterQuote name afterName ∧ skipBlank afterName = Ascii.colon :: afterColon ∧
      skipBlank afterColon = skipBlank bytes := by
  obtain ⟨⟨characters⟩, before, after⟩ := h
  simp only [List.cons_append, List.append_assoc, List.nil_append]
  exact ⟨_, _, _, rfl, text_iff.mpr ⟨_, characters, rfl⟩, skipBlank_append before _, skipBlank_append after bytes⟩

/-- A name that is read is one of the standard, and so is the white space around it and its colon. -/
theorem lead_of_text {afterQuote afterName : Bytes} {name : String}
    (hq : skipBlank bytes = Ascii.quote :: afterQuote) (hname : Grammar.Text afterQuote name afterName)
    (hc : skipBlank afterName = Ascii.colon :: (gap ++ rest)) (blank : Blank gap) :
    ∃ before lead, Blank before ∧ Lead lead name ∧ bytes = before ++ (lead ++ rest) := by
  obtain ⟨inner, characters, rfl⟩ := text_iff.mp hname
  obtain ⟨before, blankBefore, hbytes⟩ := exists_gap bytes
  obtain ⟨middle, blankMiddle, hmiddle⟩ := exists_gap afterName
  rw [hq] at hbytes
  rw [hc] at hmiddle
  refine ⟨before, _, blankBefore, .mk (.mk characters) blankMiddle blank, ?_⟩
  rw [hbytes, hmiddle]
  simp only [List.cons_append, List.append_assoc, List.nil_append]

end Standard
end Relabel
