import Relabel.Proofs.Json.Tokens

/-!
# Writing texts of the standard

Documents are written in two forms, laid out over lines and on one line, and both are texts of the standard for the
same reasons. A number is written as its literal, a string character by character between quotation marks, and the
items or members of a container one after another, a comma in front of each but the first. The forms differ in how a
character is written and in the white space between tokens. `Writes` says what they have in common, and containers
are put together from it once (`Writes.array`, `Writes.object`).
-/

namespace Relabel
namespace Standard

/-! ## Tokens -/

/-- A string is written as a text of itself by every faithful way of writing characters. -/
theorem quoted_of_faithful {write : Char → Bytes} (faithful : Escape.Faithful write) (text : String) :
    Quoted (Escape.quoted write text) text := by
  obtain ⟨inner, characters, same⟩ := text_iff.mp (Escape.text_flatMap faithful text [])
  rw [Escape.quoted, List.append_cancel_right same]
  exact .mk characters

theorem integer_map {ds : List Digit} (h : ∃ d more, ds = d :: more ∧ (d = 0 → more = [])) :
    Integer (ds.map Digit.toByte) ds := by
  obtain ⟨d, more, rfl, alone⟩ := h
  by_cases hd : d = 0
  · rw [alone hd, hd]
    exact .zero
  · exact .digits hd

theorem power_exponentLiteral {exponent : Option Exponent} (h : ∀ e, exponent = some e → e.digits ≠ []) :
    Power (Number.exponentLiteral exponent) exponent := by
  cases exponent with
  | none => exact .none
  | some e =>
    obtain ⟨negative, digits⟩ := e
    obtain ⟨d, ds, rfl⟩ := List.exists_cons_of_ne_nil (h _ rfl)
    cases negative with
    | true => exact .digits (.inl rfl) .minus
    | false => exact .digits (.inl rfl) .plus

theorem numeral_literal {n : Number} (h : n.wellFormed = true) : Numeral n.literal n := by
  obtain ⟨integer, exponent⟩ := Number.wellFormed_iff.mp h
  have hi := integer_map integer
  have hf : Fraction _ n.fraction := fraction_iff.mpr rfl
  have he := power_exponentLiteral exponent
  obtain ⟨negative, integer, fraction, exponent⟩ := n
  rw [Number.literal_eq, Number.unsignedLiteral, List.append_assoc]
  cases negative with
  | true =>
    simp only [↓reduceIte, List.cons_append, List.nil_append]
    exact .negative hi hf he
  | false =>
    simp only [Bool.false_eq_true, ↓reduceIte, List.nil_append]
    exact .positive hi hf he

/-! ## Containers -/

/-- How the items and members behind the first one are written: each behind a comma and a gap, a member's name and
colon in front of its value. -/
structure Writes (document : Document → Bytes) (lead : String → Bytes) (gap : Bytes)
    (moreItems : List Document → Bytes) (moreMembers : Members → Bytes) : Prop where
  blank : Blank gap
  led : ∀ name, Lead (lead name) name
  noItems : moreItems [] = []
  nextItem : ∀ item more,
    moreItems (item :: more) = Ascii.comma :: (gap ++ (document item ++ moreItems more))
  noMembers : moreMembers [] = []
  nextMember : ∀ name item more,
    moreMembers ((name, item) :: more) =
      Ascii.comma :: (gap ++ (lead name ++ (document item ++ moreMembers more)))

namespace Writes

variable {document : Document → Bytes} {lead : String → Bytes} {gap close : Bytes}
  {moreItems : List Document → Bytes} {moreMembers : Members → Bytes} {depth : Nat}
  (h : Writes document lead gap moreItems moreMembers) (closing : Blank close)

include h closing

theorem stretch_moreItems {items : List Document}
    (each : ∀ item ∈ items, Stretch depth (document item) (.value item)) :
    Stretch depth (moreItems items ++ (close ++ [Ascii.closeBracket])) (.moreItems items) := by
  induction items with
  | nil =>
    rw [h.noItems]
    exact .itemsEnd closing
  | cons item more ih =>
    have first := each item List.mem_cons_self
    have others := ih fun d hd => each d (List.mem_cons_of_mem item hd)
    rw [h.nextItem]
    simp only [List.cons_append, List.append_assoc]
    have stretch := Stretch.nextItem blank_nil h.blank first others
    exact stretch

theorem stretch_moreMembers {members : Members}
    (each : ∀ m ∈ members, Stretch depth (document m.2) (.value m.2)) :
    Stretch depth (moreMembers members ++ (close ++ [Ascii.closeBrace])) (.moreMembers members) := by
  induction members with
  | nil =>
    rw [h.noMembers]
    exact .membersEnd closing
  | cons m more ih =>
    obtain ⟨name, item⟩ := m
    have first : Stretch depth (document item) (.value item) := each _ List.mem_cons_self
    have others := ih fun m hm => each m (List.mem_cons_of_mem _ hm)
    rw [h.nextMember]
    simp only [List.cons_append, List.append_assoc]
    have stretch := Stretch.nextMember blank_nil h.blank (h.led name) first others
    exact stretch

/-- An array with items is written as a text of itself if its items are. -/
theorem array {item : Document} {more : List Document}
    (each : ∀ d ∈ item :: more, Stretch depth (document d) (.value d)) :
    Stretch (depth + 1)
      (Ascii.openBracket :: (gap ++ (document item ++ (moreItems more ++ (close ++ [Ascii.closeBracket])))))
      (.value (.array (item :: more))) := by
  have others := h.stretch_moreItems closing fun d hd => each d (List.mem_cons_of_mem item hd)
  exact .array h.blank (each item List.mem_cons_self) others

/-- An object with members is written as a text of itself if its values are, whatever its names are. -/
theorem object {name : String} {item : Document} {more : Members}
    (each : ∀ m ∈ (name, item) :: more, Stretch depth (document m.2) (.value m.2)) :
    Stretch (depth + 1)
      (Ascii.openBrace ::
        (gap ++ (lead name ++ (document item ++ (moreMembers more ++ (close ++ [Ascii.closeBrace]))))))
      (.value (.object ((name, item) :: more))) := by
  have first : Stretch depth (document item) (.value item) := each _ List.mem_cons_self
  have others := h.stretch_moreMembers closing fun m hm => each m (List.mem_cons_of_mem _ hm)
  exact .object h.blank (h.led name) first others

end Writes
end Standard
end Relabel
