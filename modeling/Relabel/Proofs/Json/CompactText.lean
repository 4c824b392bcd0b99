import Relabel.Json.Compact
import Relabel.Proofs.Json.LayoutText
import Relabel.Proofs.Json.Unambiguous

/-!
# A document on one line

A document written on one line is a text of the standard, and it is read back as the document (`read_compact`).
**Whatever the document is, there is no control character in the line** (`noControl_compact`): inside strings they
are escaped, and outside there is no white space. So a line feed behind the line ends it and nothing else does.
-/

namespace Relabel

/-! ## Natural numbers -/

namespace Number

/-- The digits of a number are some digits, the first of which is zero only for zero itself. -/
theorem digitsOf_shape (n : Nat) : ∃ d more, digitsOf n = d :: more ∧ (d = 0 → n = 0 ∧ more = []) := by
  induction n using digitsOf.induct with
  | case1 n small =>
    rw [digitsOf, if_pos small]
    refine ⟨_, [], rfl, fun zero => ⟨?_, rfl⟩⟩
    have value : n % 10 = 0 := congrArg Fin.val zero
    omega
  | case2 n large ih =>
    obtain ⟨d, more, front, zero⟩ := ih
    rw [digitsOf, if_neg large, front]
    refine ⟨d, more ++ [Fin.ofNat 10 n], rfl, fun h => ?_⟩
    -- The front digits are those of a number that is not zero.
    have nothing := (zero h).1
    omega

theorem wellFormed_ofNat (n : Nat) : (ofNat n).wellFormed = true := by
  obtain ⟨d, more, digits, zero⟩ := digitsOf_shape n
  exact wellFormed_iff.mpr ⟨⟨d, more, digits, fun h => (zero h).2⟩, nofun⟩

end Number

/-! ## No control characters -/

/-- Bytes among which there is no control character. -/
def NoControl (bytes : Bytes) : Prop := ∀ b ∈ bytes, 0x20 ≤ b.toNat

instance (bytes : Bytes) : Decidable (NoControl bytes) :=
  List.decidableBAll (fun b : UInt8 => 0x20 ≤ b.toNat) bytes

@[simp] theorem noControl_nil : NoControl [] := fun _ h => nomatch h

@[simp] theorem noControl_cons {b : UInt8} {bytes : Bytes} :
    NoControl (b :: bytes) ↔ 0x20 ≤ b.toNat ∧ NoControl bytes := List.forall_mem_cons

@[simp] theorem noControl_append {front back : Bytes} :
    NoControl (front ++ back) ↔ NoControl front ∧ NoControl back := List.forall_mem_append

/-- A line without control characters has no line feed in it, and so it ends where its line feed is. -/
theorem NoControl.lineFeed_notMem {bytes : Bytes} (h : NoControl bytes) : Ascii.lineFeed ∉ bytes := by
  intro there
  have visible := h _ there
  revert visible
  decide

namespace Escape

theorem noControl_unitEscape (unit : Nat) : NoControl (unitEscape unit) := by
  have digit : ∀ n < 16, 0x20 ≤ (Ascii.hexDigit n).toNat := by decide
  have mod : ∀ n, n % 16 < 16 := fun n => Nat.mod_lt n (Nat.succ_pos 15)
  simp only [unitEscape, noControl_cons, noControl_nil, digit _ (mod _)]
  decide

/-- No character of ASCII is written with a control character; those that are control characters are escaped. -/
theorem noControl_asciiChar {c : Char} (h : c.toNat < 0x80) : NoControl (asciiChar c) := by
  unfold asciiChar
  repeat' split
  -- Seven characters have a letter, the other control characters a unit; what is left stands for itself.
  iterate 7 decide
  · exact noControl_unitEscape _
  · next visible =>
    rw [noControl_cons, toNat_byte h]
    exact ⟨Nat.not_lt.mp visible, noControl_nil⟩

/-- A character written as it is has no control character either, since those are escaped in both ways of writing. -/
theorem noControl_raw (c : Char) : NoControl (raw c) := by
  unfold raw
  split
  · next h => exact noControl_asciiChar h
  · next h =>
    obtain ⟨b, more, shape, -, continuation, kind⟩ := Utf8.encodeCode_shape c.toNat c.valid
    rw [Utf8.encodeChar, shape, noControl_cons]
    have large : 0x80 ≤ b.toNat := by omega
    exact ⟨by omega, fun d hd => Nat.le_trans (by decide) (continuation d hd).1⟩

theorem noControl_quoted {write : Char → Bytes} (h : ∀ c, NoControl (write c)) (text : String) :
    NoControl (quoted write text) := by
  have inner : NoControl (text.toList.flatMap write) := by
    intro b hb
    obtain ⟨c, -, hb⟩ := List.mem_flatMap.mp hb
    exact h c b hb
  simp only [quoted, List.cons_append, noControl_cons, noControl_append, noControl_nil, inner]
  decide

/-- **Writing characters as they are keeps every character.** -/
theorem raw_faithful : Faithful raw := by
  intro c after more rest body
  unfold raw
  split
  · next h => exact body_asciiChar h body
  · next h =>
    have ne : ∀ d : Char, d.toNat < 0x80 → c ≠ d := by
      rintro d hd rfl
      exact h hd
    exact Standard.body_of_character (.plain (by omega) (ne _ (by decide)) (ne _ (by decide))) body

end Escape

theorem Number.noControl_literal (n : Number) : NoControl n.literal :=
  n.forall_mem_literal (by decide) (by decide)

namespace Compact

open Standard

variable {depth : Nat}

theorem noControl_nameLead (name : String) : NoControl (nameLead name) := by
  simp only [nameLead, noControl_append, Escape.noControl_quoted Escape.noControl_raw]
  decide

mutual

/-- There is no control character in a document, in the items behind the first one, or in the members. -/
theorem noControl_document : ∀ d, NoControl (document d)
  | .null => by decide
  | .bool true => by decide
  | .bool false => by decide
  | .number literal => literal.noControl_literal
  | .string text => Escape.noControl_quoted Escape.noControl_raw text
  | .array [] => by decide
  | .array (item :: rest) => by
    simp only [document, List.cons_append, noControl_cons, noControl_append, noControl_document item,
      noControl_moreItems rest]
    decide
  | .object [] => by decide
  | .object ((name, item) :: rest) => by
    simp only [document, List.cons_append, noControl_cons, noControl_append, noControl_nameLead,
      noControl_document item, noControl_moreMembers rest]
    decide

theorem noControl_moreItems : ∀ items, NoControl (moreItems items)
  | [] => noControl_nil
  | item :: rest => by
    simp only [moreItems, List.cons_append, noControl_cons, noControl_append, noControl_document item,
      noControl_moreItems rest]
    decide

theorem noControl_moreMembers : ∀ members, NoControl (moreMembers members)
  | [] => noControl_nil
  | (name, item) :: rest => by
    simp only [moreMembers, List.cons_append, noControl_cons, noControl_append, noControl_nameLead,
      noControl_document item, noControl_moreMembers rest]
    decide

end

theorem quoted_raw (text : String) : Quoted (Escape.quoted Escape.raw text) text :=
  quoted_of_faithful Escape.raw_faithful text

/-- Items and members stand behind one another. -/
theorem writes : Writes document nameLead [] moreItems moreMembers where
  blank := blank_nil
  led name := Lead.mk (quoted_raw name) blank_nil blank_nil
  noItems := rfl
  nextItem _ _ := rfl
  noMembers := rfl
  nextMember name item more := by simp only [moreMembers, List.cons_append, List.nil_append, List.append_assoc]

/-- **A well-formed document is written as a stretch of itself.** The induction is on how the document is well-formed;
the proof is the one for layouts, with nothing between the tokens. -/
theorem stretch_of_wellFormed {d : Document} (h : d.WellFormed depth) : Stretch depth (document d) (.value d) := by
  induction h with
  | null => exact .null
  | bool value =>
    cases value with
    | true => exact .yes
    | false => exact .no
  | number valid => exact .number (numeral_literal valid)
  | string text => exact .string (quoted_raw text)
  | @array depth items _ ih =>
    cases items with
    | nil => exact .emptyArray blank_nil
    | cons item more =>
      have stretch := writes.array blank_nil ih
      simpa only [document, List.cons_append, List.nil_append, List.append_assoc] using stretch
  | @object depth members _ _ _ ih =>
    cases members with
    | nil => exact .emptyObject blank_nil
    | cons m more =>
      obtain ⟨name, item⟩ := m
      have stretch := writes.object blank_nil ih
      simpa only [document, List.cons_append, List.nil_append, List.append_assoc] using stretch

end Compact

namespace Document

/-- A well-formed document resolves to itself: its layout is a text of it and is read back as it. -/
theorem resolve?_of_wellFormed {d : Document} (h : d.WellFormed depthLimit) : d.resolve? = some d :=
  (read_text_iff (text_layout (Layout.isText_of_wellFormed h))).mp (read_layout h)

theorem text_compact {depth : Nat} {d : Document} (h : d.WellFormed depth) : Standard.Text depth d.compact d := by
  have text := Standard.Text.mk Standard.blank_nil (Compact.stretch_of_wellFormed h) Standard.blank_nil
  rw [List.append_nil, List.nil_append] at text
  exact text

/-- **A document on one line is read back.** -/
theorem read_compact {d : Document} (h : d.WellFormed depthLimit) : read d.compact = .ok d :=
  (read_text_iff (text_compact h)).mpr (resolve?_of_wellFormed h)

/-- **A document on one line is on one line.** -/
theorem noControl_compact (d : Document) : NoControl d.compact := Compact.noControl_document d

end Document
end Relabel
