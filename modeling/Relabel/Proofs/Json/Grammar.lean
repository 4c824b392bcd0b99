import Relabel.Json.Reader
import Relabel.Proofs.Json.Members
import Relabel.Proofs.Json.Number

/-!
# The grammar beside the reader

The texts of documents as an inductive relation, with no budget, no faults and no text to place them in.
`Grammar.Phrase depth bytes p rest` says that `bytes` start with the phrase `p`, white space before it
included, and go on with `rest`. A phrase is a value or what follows the first item of an array or the
first member of an object; the three are one relation so that one induction serves them all.

`depth` is how many arrays and objects may still be opened. Two of the reader's decisions are rules here:
a repeated name replaces the value it had (`Phrase.object` folds the members in), and an object whose first
name is `numberMark` is a number (`Phrase.marked`).

The relation is about what is accepted and with which meaning. Which fault a text has that is not accepted
is not its concern.
-/

namespace Relabel
namespace Grammar

open Reader

/-! ## Strings -/

/-- `Escaped bytes meaning rest`: behind a backslash, `bytes` start with what stands for `meaning`. -/
inductive Escaped : Bytes → Bytes → Bytes → Prop
  /-- One letter. -/
  | letter {b plain : UInt8} {rest : Bytes} : plainEscape? b = some plain → Escaped (b :: rest) [plain] rest
  /-- The code of a character. -/
  | unit {a b c d : UInt8} {code : Nat} {rest : Bytes} :
    hexUnit? a b c d = some code → isLowSurrogate code = false → isHighSurrogate code = false →
    Escaped (Ascii.byte 'u' :: a :: b :: c :: d :: rest) (Utf8.encodeCode code) rest
  | pair {a b c d a' b' c' d' : UInt8} {high low : Nat} {rest : Bytes} :
    hexUnit? a b c d = some high → isHighSurrogate high = true →
    hexUnit? a' b' c' d' = some low → isLowSurrogate low = true →
    Escaped
      (Ascii.byte 'u' :: a :: b :: c :: d :: Ascii.backslash :: Ascii.byte 'u' ::
        a' :: b' :: c' :: d' :: rest)
      (Utf8.encodeCode (pairCode high low)) rest

/-- `StringBody bytes meaning rest`: behind a quotation mark, `bytes` start with a string that stands
for the bytes `meaning`, its closing quotation mark included. -/
inductive StringBody : Bytes → Bytes → Bytes → Prop
  /-- The closing quotation mark. -/
  | close {rest : Bytes} : StringBody (Ascii.quote :: rest) [] rest
  | escape {bytes meaning after more rest : Bytes} :
    Escaped bytes meaning after → StringBody after more rest →
    StringBody (Ascii.backslash :: bytes) (meaning ++ more) rest
  /-- Any other byte but a control character. -/
  | plain {b : UInt8} {bytes more rest : Bytes} :
    b ≠ Ascii.quote → b ≠ Ascii.backslash → ¬ b < 0x20 → StringBody bytes more rest →
    StringBody (b :: bytes) (b :: more) rest

/-- Behind a quotation mark, `bytes` start with a string that is the text `s`. -/
def Text (bytes : Bytes) (s : String) (rest : Bytes) : Prop :=
  ∃ meaning, StringBody bytes meaning rest ∧ Utf8.decode? meaning = some s

/-! ## Values -/

/-- Behind `numberMark`, `bytes` start with what completes the written form of the number `n`. -/
inductive Marked : Bytes → Number → Bytes → Prop
  /-- A colon, a string that holds the number's literal, and the closing bracket. -/
  | mk {bytes afterColon afterQuote afterText rest : Bytes} {s : String} {n : Number} :
    skipBlank bytes = Ascii.colon :: afterColon → skipBlank afterColon = Ascii.quote :: afterQuote →
    Text afterQuote s afterText → numberText (Utf8.encode s) = .ok n →
    skipBlank afterText = Ascii.closeBrace :: rest → Marked bytes n rest

/-- What a stretch of text stands for. -/
inductive Meaning where
  | value (d : Document)
  /-- The items of an array behind an item, up to the closing bracket. -/
  | moreItems (items : List Document)
  /-- The members of an object behind a member, as they are written, up to the closing bracket. -/
  | moreMembers (members : Members)

/-- `Phrase depth bytes p rest`: `bytes` start with the phrase `p` and go on with `rest`, and the phrase
opens at most `depth` arrays and objects at once. -/
inductive Phrase : Nat → Bytes → Meaning → Bytes → Prop
  | null {depth : Nat} {bytes rest : Bytes} :
    skipBlank bytes = Ascii.byte 'n' :: (nullTail ++ rest) → Phrase depth bytes (.value .null) rest
  | yes {depth : Nat} {bytes rest : Bytes} :
    skipBlank bytes = Ascii.byte 't' :: (trueTail ++ rest) → Phrase depth bytes (.value (.bool true)) rest
  | no {depth : Nat} {bytes rest : Bytes} :
    skipBlank bytes = Ascii.byte 'f' :: (falseTail ++ rest) →
    Phrase depth bytes (.value (.bool false)) rest
  | negative {depth : Nat} {bytes tail rest : Bytes} {n : Number} :
    skipBlank bytes = Ascii.minus :: tail → Number.scanUnsigned true tail = .ok (n, rest) →
    Phrase depth bytes (.value (.number n)) rest
  /-- A number without a sign. -/
  | positive {depth : Nat} {bytes tail rest : Bytes} {b : UInt8} {n : Number} :
    skipBlank bytes = b :: tail → Ascii.isDigit b = true →
    Number.scanUnsigned false (b :: tail) = .ok (n, rest) →
    Phrase depth bytes (.value (.number n)) rest
  | string {depth : Nat} {bytes tail rest : Bytes} {s : String} :
    skipBlank bytes = Ascii.quote :: tail → Text tail s rest →
    Phrase depth bytes (.value (.string s)) rest
  | emptyArray {depth : Nat} {bytes tail rest : Bytes} :
    skipBlank bytes = Ascii.openBracket :: tail → skipBlank tail = Ascii.closeBracket :: rest →
    Phrase (depth + 1) bytes (.value (.array [])) rest
  | array {depth : Nat} {bytes tail afterItem rest : Bytes} {item : Document} {more : List Document} :
    skipBlank bytes = Ascii.openBracket :: tail → Phrase depth tail (.value item) afterItem →
    Phrase depth afterItem (.moreItems more) rest →
    Phrase (depth + 1) bytes (.value (.array (item :: more))) rest
  | emptyObject {depth : Nat} {bytes tail rest : Bytes} :
    skipBlank bytes = Ascii.openBrace :: tail → skipBlank tail = Ascii.closeBrace :: rest →
    Phrase (depth + 1) bytes (.value (.object [])) rest
  /-- The written form of a number. -/
  | marked {depth : Nat} {bytes tail afterQuote afterName rest : Bytes} {n : Number} :
    skipBlank bytes = Ascii.openBrace :: tail → skipBlank tail = Ascii.quote :: afterQuote →
    Text afterQuote numberMark afterName → Marked afterName n rest →
    Phrase (depth + 1) bytes (.value (.number n)) rest
  | object {depth : Nat} {bytes tail afterQuote afterName afterColon afterItem rest : Bytes}
      {name : String} {item : Document} {more : Members} :
    skipBlank bytes = Ascii.openBrace :: tail → skipBlank tail = Ascii.quote :: afterQuote →
    Text afterQuote name afterName → name ≠ numberMark →
    skipBlank afterName = Ascii.colon :: afterColon → Phrase depth afterColon (.value item) afterItem →
    Phrase depth afterItem (.moreMembers more) rest →
    Phrase (depth + 1) bytes (.value (.object (Members.insertAll [(name, item)] more))) rest
  | itemsEnd {depth : Nat} {bytes rest : Bytes} :
    skipBlank bytes = Ascii.closeBracket :: rest → Phrase depth bytes (.moreItems []) rest
  | nextItem {depth : Nat} {bytes tail afterItem rest : Bytes} {item : Document}
      {more : List Document} :
    skipBlank bytes = Ascii.comma :: tail → Phrase depth tail (.value item) afterItem →
    Phrase depth afterItem (.moreItems more) rest →
    Phrase depth bytes (.moreItems (item :: more)) rest
  | membersEnd {depth : Nat} {bytes rest : Bytes} :
    skipBlank bytes = Ascii.closeBrace :: rest → Phrase depth bytes (.moreMembers []) rest
  | nextMember {depth : Nat} {bytes tail afterQuote afterName afterColon afterItem rest : Bytes}
      {name : String} {item : Document} {more : Members} :
    skipBlank bytes = Ascii.comma :: tail → skipBlank tail = Ascii.quote :: afterQuote →
    Text afterQuote name afterName → skipBlank afterName = Ascii.colon :: afterColon →
    Phrase depth afterColon (.value item) afterItem → Phrase depth afterItem (.moreMembers more) rest →
    Phrase depth bytes (.moreMembers ((name, item) :: more)) rest

/-! ## White space -/

/-- White space is skipped at once. -/
theorem skipBlank_idem (bytes : Bytes) : skipBlank (skipBlank bytes) = skipBlank bytes := by
  induction bytes with
  | nil => rfl
  | cons b tail ih =>
    by_cases hb : isBlank b = true
    · simpa only [skipBlank, List.dropWhile_cons, hb, ↓reduceIte] using ih
    · simp only [skipBlank, List.dropWhile_cons, hb, Bool.false_eq_true, ↓reduceIte]

/-- What stands behind white space has no white space in front. -/
theorem skipBlank_of_eq {b : UInt8} {bytes tail : Bytes} (h : skipBlank bytes = b :: tail) :
    skipBlank (b :: tail) = b :: tail := by
  rw [← h, skipBlank_idem]

/-- What stands behind white space is no longer than before. -/
theorem length_skipBlank {b : UInt8} {bytes tail : Bytes} (h : skipBlank bytes = b :: tail) :
    tail.length < bytes.length := by
  have hs : (skipBlank bytes).length ≤ bytes.length := (List.dropWhile_suffix _).length_le
  rw [h, List.length_cons] at hs
  omega

/-- A value has a byte in front that closes nothing. -/
theorem exists_of_value {depth : Nat} {bytes rest : Bytes} {d : Document}
    (h : Phrase depth bytes (.value d) rest) :
    ∃ b tail, skipBlank bytes = b :: tail ∧ b ≠ Ascii.closeBracket ∧ b ≠ Ascii.closeBrace := by
  -- The byte is given by the constructor, except for a digit, of which there are ten.
  cases h with
  | null hb | yes hb | no hb => exact ⟨_, _, hb, by decide, by decide⟩
  | negative hb _ | string hb _ | emptyArray hb _ | emptyObject hb _ => exact ⟨_, _, hb, by decide, by decide⟩
  | array hb _ _ => exact ⟨_, _, hb, by decide, by decide⟩
  | marked hb _ _ _ => exact ⟨_, _, hb, by decide, by decide⟩
  | object hb _ _ _ _ _ _ => exact ⟨_, _, hb, by decide, by decide⟩
  | positive hb hd _ =>
    refine ⟨_, _, hb, ?_, ?_⟩ <;>
      · rintro rfl
        cases hd

/-- An object that is not empty starts with a name, which is the mark or is not. -/
theorem exists_of_object {depth : Nat} {bytes tail afterQuote rest : Bytes} {d : Document}
    (h : Phrase depth bytes (.value d) rest) (hb : skipBlank bytes = Ascii.openBrace :: tail)
    (hq : skipBlank tail = Ascii.quote :: afterQuote) :
    ∃ name afterName, Text afterQuote name afterName ∧
      (name = numberMark → ∃ n, Marked afterName n rest) := by
  cases h with
  | null h | yes h | no h => rw [hb] at h; cases h
  | negative h _ | string h _ | emptyArray h _ => rw [hb] at h; cases h
  | array h _ _ => rw [hb] at h; cases h
  | positive h hd _ =>
    rw [hb] at h
    cases h
    cases hd
  | emptyObject h he =>
    rw [hb] at h
    cases h
    rw [hq] at he
    cases he
  | marked h h' hname hm =>
    rw [hb] at h
    cases h
    rw [hq] at h'
    cases h'
    exact ⟨_, _, hname, fun _ => ⟨_, hm⟩⟩
  | object h h' hname unmarked _ _ _ =>
    rw [hb] at h
    cases h
    rw [hq] at h'
    cases h'
    exact ⟨_, _, hname, fun mark => absurd mark unmarked⟩

/-- A phrase is not changed by the white space in front of it. -/
theorem Phrase.congr {depth : Nat} {bytes bytes' rest : Bytes} {p : Meaning}
    (same : skipBlank bytes = skipBlank bytes') (h : Phrase depth bytes p rest) :
    Phrase depth bytes' p rest := by
  cases h with
  | null hb => exact .null (same ▸ hb)
  | yes hb => exact .yes (same ▸ hb)
  | no hb => exact .no (same ▸ hb)
  | negative hb hn => exact .negative (same ▸ hb) hn
  | positive hb hd hn => exact .positive (same ▸ hb) hd hn
  | string hb hs => exact .string (same ▸ hb) hs
  | emptyArray hb he => exact .emptyArray (same ▸ hb) he
  | array hb hi hm => exact .array (same ▸ hb) hi hm
  | emptyObject hb he => exact .emptyObject (same ▸ hb) he
  | marked hb hq hn hm => exact .marked (same ▸ hb) hq hn hm
  | object hb hq hn hu hc hi hm => exact .object (same ▸ hb) hq hn hu hc hi hm
  | itemsEnd hb => exact .itemsEnd (same ▸ hb)
  | nextItem hb hi hm => exact .nextItem (same ▸ hb) hi hm
  | membersEnd hb => exact .membersEnd (same ▸ hb)
  | nextMember hb hq hn hc hi hm => exact .nextMember (same ▸ hb) hq hn hc hi hm

/-- White space in front of a phrase can be skipped before. -/
theorem Phrase.of_skipBlank {depth : Nat} {b : UInt8} {bytes tail rest : Bytes} {p : Meaning}
    (h : Phrase depth (b :: tail) p rest) (hb : skipBlank bytes = b :: tail) :
    Phrase depth bytes p rest :=
  h.congr (by rw [hb, skipBlank_of_eq hb])

/-! ## Every phrase takes a byte -/

section

variable {bytes rest : Bytes}

/-- What an escape leaves is shorter than what it was read from. -/
theorem length_lt_of_escaped {meaning : Bytes} (h : Escaped bytes meaning rest) :
    rest.length < bytes.length := by
  cases h <;> simp only [List.length_cons] <;> omega

/-- What a string leaves is shorter than what it was read from. -/
theorem length_lt_of_body {meaning : Bytes} (h : StringBody bytes meaning rest) :
    rest.length < bytes.length := by
  induction h with
  | close => exact Nat.lt_succ_self _
  | escape he _ ih =>
    have := length_lt_of_escaped he
    simp only [List.length_cons]
    omega
  | plain _ _ _ _ ih =>
    simp only [List.length_cons]
    omega

/-- What the written form of a number leaves is shorter than what it was read from. -/
theorem length_lt_of_marked {n : Number} (h : Marked bytes n rest) : rest.length < bytes.length := by
  obtain ⟨hc, hq, ⟨_, body, _⟩, _, he⟩ := h
  have := length_skipBlank hc
  have := length_skipBlank hq
  have := length_lt_of_body body
  have := length_skipBlank he
  omega

/-- What stands behind a name and its colon is shorter than what stood before the name. -/
theorem length_lt_of_name {afterQuote afterName afterColon : Bytes} {name : String}
    (hq : skipBlank bytes = Ascii.quote :: afterQuote) (hname : Text afterQuote name afterName)
    (hc : skipBlank afterName = Ascii.colon :: afterColon) : afterColon.length < bytes.length := by
  obtain ⟨_, body, _⟩ := hname
  have := length_skipBlank hq
  have := length_lt_of_body body
  have := length_skipBlank hc
  omega

/-- **Every phrase takes a byte.** -/
theorem length_lt_of_phrase {depth : Nat} {p : Meaning} (h : Phrase depth bytes p rest) :
    rest.length < bytes.length := by
  induction h with
  | null hb | yes hb | no hb =>
    have := length_skipBlank hb
    rw [List.length_append] at this
    omega
  | negative hb hn =>
    have := length_skipBlank hb
    have := (Number.scanUnsigned_ok hn).2.2
    omega
  | positive hb _ hn =>
    have := length_skipBlank hb
    have := (Number.scanUnsigned_ok hn).2.2
    rw [List.length_cons] at this
    omega
  | string hb hs =>
    obtain ⟨_, body, _⟩ := hs
    have := length_skipBlank hb
    have := length_lt_of_body body
    omega
  | emptyArray hb he | emptyObject hb he =>
    have := length_skipBlank hb
    have := length_skipBlank he
    omega
  | array hb _ _ item more | nextItem hb _ _ item more =>
    have := length_skipBlank hb
    omega
  | marked hb hq hname hm =>
    obtain ⟨_, body, _⟩ := hname
    have := length_skipBlank hb
    have := length_skipBlank hq
    have := length_lt_of_body body
    have := length_lt_of_marked hm
    omega
  | object hb hq hname _ hc _ _ item more | nextMember hb hq hname hc _ _ item more =>
    have := length_skipBlank hb
    have := length_lt_of_name hq hname hc
    omega
  | itemsEnd hb | membersEnd hb => exact length_skipBlank hb

end

end Grammar
end Relabel
