import Relabel.Proofs.Json.Conformance
import Relabel.Proofs.Revision

/-!
# Files that are not encoded text

A file that is revised is encoded text from its first byte to its last. **A file that is not is refused**, wherever in
it the bytes stand that are no part of a character, and stays as it is (`Tree.reviseFile_unencoded`).

The reader itself asks this only of single strings, and there only of the bytes that are left when escapes have been
resolved. So nothing is seen of it in the reader, but it is plain in the standard grammar, whose texts are put
together from characters: a stretch between two characters is encoded if its parts are (`Utf8.Encoded.append`), and by
the grammar's rules every text is (`Standard.Text.encoded`). That a file that is read is such a text is what
conformance says, and it is there that the bytes of a string have been told from those of its escapes
(`Standard.body_of_continuation`).

`Utf8.encoded_iff_isValidUTF8` is the link to what the language itself takes for UTF-8.
-/

namespace Relabel

namespace Utf8

variable {bytes more : Bytes} {b : UInt8}

/-! ## Encoded bytes -/

/-- The bytes are those of some characters, one after another. -/
def Encoded (bytes : Bytes) : Prop := ∃ cs, bytes = encodeChars cs

theorem encoded_nil : Encoded [] := ⟨[], rfl⟩

theorem encoded_encodeChar (c : Char) : Encoded (encodeChar c) := ⟨[c], (List.append_nil _).symm⟩

theorem Encoded.append (h : Encoded bytes) (h' : Encoded more) : Encoded (bytes ++ more) := by
  obtain ⟨cs, rfl⟩ := h
  obtain ⟨cs', rfl⟩ := h'
  exact ⟨cs ++ cs', List.flatMap_append.symm⟩

theorem Encoded.cons (h : Encoded bytes) (small : b.toNat < 0x80 := by decide) : Encoded (b :: bytes) := by
  have single : encodeChar (Char.ofNat b.toNat) = [b] := by
    rw [encodeChar_ofNat (.inl (by omega)), encodeCode, if_pos small, toUInt8_eq rfl]
  exact (single ▸ encoded_encodeChar (Char.ofNat b.toNat)).append h

theorem Encoded.unicodeEscape (h : Encoded bytes) : Encoded (Ascii.backslash :: Ascii.byte 'u' :: bytes) :=
  h.cons.cons

theorem encoded_of_ascii (h : ∀ b ∈ bytes, b.toNat < 0x80) : Encoded bytes := by
  induction bytes with
  | nil => exact encoded_nil
  | cons b bytes ih =>
    obtain ⟨small, others⟩ := List.forall_mem_cons.mp h
    exact (ih others).cons small

/-- The machine accepts what is encoded and nothing else. It rejects what could be encoded in fewer bytes, surrogates,
and codes beyond those of characters, so that no other bytes than those of `Utf8.encodeChars` get through. -/
theorem isValid_iff : isValid bytes = true ↔ Encoded bytes := by
  rw [isValid, Option.isSome_iff_exists]
  constructor
  · rintro ⟨cs, h⟩
    obtain ⟨more, -, rfl⟩ := eq_encodeChars h
    exact ⟨more, rfl⟩
  · rintro ⟨cs, rfl⟩
    have read := decodeFrom_encodeChars cs [] []
    rw [List.append_nil] at read
    exact ⟨_, read⟩

/-! ## The language's own encoding -/

theorem encodeChar_eq_utf8EncodeChar (c : Char) : encodeChar c = String.utf8EncodeChar c := by
  have valid : c.toNat < 0xd800 ∨ 0xdfff < c.toNat ∧ c.toNat < 0x110000 := c.valid
  simp only [encodeChar, encodeCode, String.utf8EncodeChar, Char.toNat, Nat.toUInt8] at valid ⊢
  generalize c.val.toNat = n at *
  by_cases h₁ : n < 0x80
  · rw [if_pos h₁, if_pos (by omega)]
  by_cases h₂ : n < 0x800
  · have lead : n / 64 % 32 + 192 = 0xc0 + n / 64 := by omega
    rw [if_neg h₁, if_pos h₂, if_neg (by omega), if_pos (by omega), lead, Nat.add_comm 0x80]
  by_cases h₃ : n < 0x10000
  · have lead : n / 4096 % 16 + 224 = 0xe0 + n / 4096 := by omega
    rw [if_neg h₁, if_neg h₂, if_pos h₃, if_neg (by omega), if_neg (by omega), if_pos (by omega), lead,
      Nat.add_comm 0x80, Nat.add_comm 0x80]
  · have lead : n / 262144 % 8 + 240 = 0xf0 + n / 262144 := by omega
    rw [if_neg h₁, if_neg h₂, if_neg h₃, if_neg (by omega), if_neg (by omega), if_neg (by omega), lead]
    simp only [Nat.add_comm]

/-- **Encoded bytes are those that the language takes for UTF-8.** -/
theorem encoded_iff_isValidUTF8 : Encoded bytes ↔ bytes.toByteArray.IsValidUTF8 := by
  have same : encodeChar = String.utf8EncodeChar := funext encodeChar_eq_utf8EncodeChar
  constructor
  · rintro ⟨cs, rfl⟩
    refine ⟨cs, ?_⟩
    rw [encodeChars, same]
    rfl
  · rintro ⟨cs, h⟩
    have data := congrArg (fun array => array.data.toList) h
    refine ⟨cs, ?_⟩
    simpa only [List.utf8Encode, List.toList_data_toByteArray, encodeChars, same] using data

end Utf8

namespace Standard

open Utf8 (Encoded encoded_nil encoded_of_ascii encoded_encodeChar)

variable {depth : Nat} {bytes gap : Bytes}

/-! ## Texts of the standard -/

theorem Blank.encoded (h : Blank gap) : Encoded gap := by
  refine encoded_of_ascii fun b hb => ?_
  rcases h b hb with rfl | rfl | rfl | rfl <;> decide

theorem Numeral.encoded {n : Number} (h : Numeral bytes n) : Encoded bytes :=
  encoded_of_ascii (forall_mem_numeral (by decide) (by decide) h)

theorem toNat_lt_of_hexValue? {b : UInt8} {n : Nat} (h : Ascii.hexValue? b = some n) : b.toNat < 0x80 := by
  unfold Ascii.hexValue? at h
  simp only [Bool.and_eq_true, decide_eq_true_eq, UInt8.le_iff_toNat_le, UInt8.reduceToNat] at h
  split at h
  · omega
  split at h
  · omega
  split at h
  · omega
  · cases h

theorem CodeUnit.encoded {code : Nat} (h : CodeUnit bytes code) : Encoded bytes := by
  have small := @toNat_lt_of_hexValue?
  cases h with
  | mk ha hb hc hd => exact (((encoded_nil.cons (small hd)).cons (small hc)).cons (small hb)).cons (small ha)

theorem toNat_lt_of_letterEscape? {b : UInt8} {c : Char} (h : letterEscape? b = some c) : b.toNat < 0x80 := by
  unfold letterEscape? at h
  repeat' split at h
  case isFalse => cases h
  all_goals subst b; decide

/-- What stands for a character is encoded, whether it is the character itself or an escape. -/
theorem Character.encoded {c : Char} (h : Character bytes c) : Encoded bytes := by
  cases h with
  | plain => exact encoded_encodeChar c
  | letter hb => exact (encoded_nil.cons (toNat_lt_of_letterEscape? hb)).cons
  | unit hu _ => exact hu.encoded.unicodeEscape
  | pair hh _ hl _ => exact (hh.encoded.append hl.encoded.unicodeEscape).unicodeEscape

theorem Characters.encoded {cs : List Char} (h : Characters bytes cs) : Encoded bytes := by
  induction h with
  | nil => exact encoded_nil
  | cons character _ ih => exact character.encoded.append ih

theorem Quoted.encoded {s : String} (h : Quoted bytes s) : Encoded bytes := by
  obtain ⟨characters⟩ := h
  exact (characters.encoded.append (encoded_nil.cons)).cons

theorem Lead.encoded {name : String} (h : Lead bytes name) : Encoded bytes := by
  obtain ⟨quoted, before, after⟩ := h
  exact quoted.encoded.append (before.encoded.append (after.encoded.cons))

/-- **A stretch of a text is encoded.** Every rule of the grammar puts together encoded parts and ASCII bytes, so the
induction on the derivation has nothing to do but to join them. Bytes that are no UTF-8 are kept out by the rule for a
character that stands for itself, which asks for the bytes of a character. -/
theorem Stretch.encoded {p : Grammar.Meaning} (h : Stretch depth bytes p) : Encoded bytes := by
  induction h with
  | null | yes | no => exact encoded_of_ascii (by decide +kernel)
  | number h => exact h.encoded
  | string h => exact h.encoded
  | emptyArray blank | emptyObject blank =>
    exact (blank.encoded.append (encoded_nil.cons)).cons
  | array blank _ _ item more => exact (blank.encoded.append (item.append more)).cons
  | object blank lead _ _ item more =>
    exact (blank.encoded.append (lead.encoded.append (item.append more))).cons
  | itemsEnd blank | membersEnd blank => exact blank.encoded.append (encoded_nil.cons)
  | nextItem before after _ _ item more =>
    exact before.encoded.append ((after.encoded.append (item.append more)).cons)
  | nextMember before after lead _ _ item more =>
    exact before.encoded.append ((after.encoded.append (lead.encoded.append (item.append more))).cons)

theorem Text.encoded {d : Document} (h : Text depth bytes d) : Encoded bytes := by
  obtain ⟨before, stretch, after⟩ := h
  exact before.encoded.append (stretch.encoded.append after.encoded)

end Standard

/-- **What is read as a document is encoded text**, all of it: the values, and also the white space and the tokens
that no value keeps. -/
theorem Document.encoded_of_read {bytes : Bytes} {d : Document} (h : Document.read bytes = .ok d) :
    Utf8.Encoded bytes := by
  obtain ⟨raw, text, -⟩ := Document.read_ok_iff_text.mp h
  exact text.encoded

namespace Tree

variable {tree : Tree} {path : Path} {id : NodeId}

/-- **A file that is not encoded text is refused as no document, and stays.** It is a regular file that the user may
read and write, and its bytes as a whole are not UTF-8, in whichever place. -/
theorem reviseFile_unencoded (stat : tree.stat path = .ok .file) (opened : tree.openFile path = .ok id)
    (unencoded : ¬ (tree.contents id).toByteArray.IsValidUTF8) :
    ∃ fault, tree.reviseFile path = (.error (.invalidJson path fault), tree) := by
  cases read : Document.read (tree.contents id) with
  | error fault => exact ⟨fault, reviseFile_of_refuses (.noDocument stat opened read)⟩
  | ok d => exact absurd (Utf8.encoded_iff_isValidUTF8.mp (Document.encoded_of_read read)) unencoded

/-- A text with half a character in a string, an escape behind it that might seem to be the other half, and a later
member that takes the string's place. -/
def brokenText : Bytes :=
  Ascii.bytes "\x7b\"with\":1,\"a\":\"" ++ [0xe2, 0x82] ++ Ascii.bytes "\\u00ac\",\"a\":2\x7d"

/-- The text is refused although the string with half a character in it would be no part of the document, because a
later member takes its place. -/
theorem reviseFile_unencoded_overwritten :
    let path := Path.ofString "a"
    let tree := single brokenText
    tree.stat path = .ok .file ∧ tree.openFile path = .ok 1 ∧ ¬ (tree.contents 1).toByteArray.IsValidUTF8 ∧
      ∃ fault, tree.reviseFile path = (.error (.invalidJson path fault), tree) := by
  intro path tree
  have stat : tree.stat path = .ok .file := by decide +kernel
  have opened : tree.openFile path = .ok 1 := by decide +kernel
  have unencoded : ¬ (tree.contents 1).toByteArray.IsValidUTF8 := by
    rw [← Utf8.encoded_iff_isValidUTF8, ← Utf8.isValid_iff]
    decide +kernel
  exact ⟨stat, opened, unencoded, reviseFile_unencoded stat opened unencoded⟩

end Tree
end Relabel
