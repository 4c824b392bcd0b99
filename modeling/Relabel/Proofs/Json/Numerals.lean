import Relabel.Proofs.Json.LayoutText
import Relabel.Proofs.Json.Scan
import Relabel.Proofs.Json.Unambiguous

/-!
# Numbers from a text to its layout

A layout has a number literal wherever the text has one, in the same order, and they differ in one respect: the
exponent, which the layout spells with a lower-case `e` and a sign. `Document.numerals_layout` says this of every text
in which no object repeats a name or has the mark as a name; in a text with repeated names numbers get lost with the
members that are overwritten, and a string under the mark can become a number.

Text and layout are compared by way of the document. Its `numbers` are in order what the literals of each of the two
spell, of the text in one of the ways of the grammar (`numerals_of_text`) and of the layout in the one way in which
`Number.literal` writes (`numerals_of_layout`).
-/

namespace Relabel

open Standard

/-! ## Spellings of a number -/

namespace Number

/-- Whether a byte does not begin the exponent of a literal. -/
def inFront (b : UInt8) : Bool := b ≠ Ascii.byte 'e' && b ≠ Ascii.byte 'E'

/-- Whether the first byte, if there is one, is a sign. -/
def signed (bytes : Bytes) : Bool := bytes.head? = some Ascii.plus || bytes.head? = some Ascii.minus

/-- A literal with its exponent spelled as layouts spell it. -/
def respell (literal : Bytes) : Bytes :=
  literal.takeWhile inFront ++
    match literal.dropWhile inFront with
    | [] => []
    | _ :: rest => Ascii.byte 'e' :: if signed rest then rest else Ascii.plus :: rest

/-- The exponent of a literal, if there is one, has a lower-case letter and a sign. -/
def IsSettled (literal : Bytes) : Prop :=
  ∀ letter rest, literal.dropWhile inFront = letter :: rest → letter = Ascii.byte 'e' ∧ signed rest = true

/-- Layouts keep a literal as it is exactly if its exponent is spelled as theirs are. -/
theorem respell_eq_self_iff {literal : Bytes} : respell literal = literal ↔ IsSettled literal := by
  have parts := List.takeWhile_append_dropWhile (p := inFront) (l := literal)
  have cancel {back : Bytes} :
      literal.takeWhile inFront ++ back = literal ↔ back = literal.dropWhile inFront := by
    conv_lhs => rhs; rw [← parts]
    exact List.append_right_inj _
  rw [respell, cancel, IsSettled]
  cases literal.dropWhile inFront with
  | nil => exact ⟨fun _ _ _ h => (List.cons_ne_nil _ _ h.symm).elim, fun _ => rfl⟩
  | cons letter rest =>
    simp only [List.cons.injEq]
    constructor
    · rintro ⟨rfl, same⟩ _ _ ⟨rfl, rfl⟩
      refine ⟨rfl, ?_⟩
      by_contra unsigned
      rw [if_neg unsigned] at same
      exact absurd (congrArg List.length same) (Nat.succ_ne_self rest.length)
    · intro settled
      obtain ⟨lower, sign⟩ := settled letter rest ⟨rfl, rfl⟩
      exact ⟨lower.symm, if_pos sign⟩

end Number

namespace Standard

open Number

variable {bytes i e : Bytes} {n : Number} {exponent : Option Exponent}

theorem signed_digits (d : Digit) (ds : List Digit) : signed ((d :: ds).map Digit.toByte) = false := by
  have notSign : ∀ d : Digit, signed [d.toByte] = false := by decide
  exact notSign d

/-- An exponent, if there is one, is respelled as layouts write it: with a small letter, and with a sign. -/
theorem respell_power (h : Power e exponent) : respell e = exponentLiteral exponent := by
  cases h with
  | none => rfl
  | @digits letter sign negative d ds hletter hsign =>
    have front : inFront letter = false := by
      rcases hletter with rfl | rfl <;> decide
    rw [respell, List.takeWhile_cons, List.dropWhile_cons, front]
    cases hsign with
    | none =>
      show Ascii.byte 'e' :: (if signed ((d :: ds).map Digit.toByte) then _ else _) = _
      rw [signed_digits]
      rfl
    | plus => rfl
    | minus => rfl

theorem respell_append (h : ∀ b ∈ i, inFront b = true) : respell (i ++ e) = i ++ respell e := by
  rw [respell, respell, List.takeWhile_append_of_pos h, List.dropWhile_append_of_pos h, List.append_assoc]

/-- **However a number is spelled, its literal is the spelling with the exponent respelled.** Everything in front of
the exponent is kept by the reader, a minus before zero and zeros behind the point included; of the exponent it keeps
the digits, and the sign only as to whether it is a minus. -/
theorem respell_numeral (h : Numeral bytes n) : respell bytes = n.literal := by
  have digit : ∀ d : Digit, inFront d.toByte = true := by decide
  have digits : ∀ ds : List Digit, ∀ b ∈ ds.map Digit.toByte, inFront b = true := by
    intro ds
    exact List.forall_mem_map.mpr fun d _ => digit d
  have unsigned {i f e : Bytes} {integer fraction : List Digit} {exponent : Option Exponent}
      (hi : Integer i integer) (hf : Fraction f fraction) (he : Power e exponent) :
      respell (i ++ (f ++ e)) = integer.map Digit.toByte ++ (fractionLiteral fraction ++ exponentLiteral exponent) := by
    obtain rfl : i = integer.map Digit.toByte := by cases hi <;> rfl
    obtain rfl := fraction_iff.mp hf
    have point : ∀ b ∈ fractionLiteral fraction, inFront b = true := by
      cases fraction with
      | nil => exact List.forall_mem_nil _
      | cons d ds => exact List.forall_mem_cons.mpr ⟨by decide, digits (d :: ds)⟩
    rw [respell_append (digits integer), respell_append point, respell_power he]
  cases h with
  | positive hi hf he =>
    rw [unsigned hi hf he, literal_eq, unsignedLiteral, List.append_assoc]
    rfl
  | negative hi hf he =>
    have minus : ∀ b ∈ [Ascii.minus], inFront b = true := List.forall_mem_singleton.mpr rfl
    rw [← List.singleton_append, respell_append minus, unsigned hi hf he, literal_eq, unsignedLiteral,
      List.append_assoc]
    rfl

end Standard

/-! ## The numbers of a document -/

namespace Document

mutual

/-- The numbers of a document, in order. -/
def numbers : Document → List Number
  | .number n => [n]
  | .array items => numbersOfItems items
  | .object members => numbersOfMembers members
  | _ => []

/-- The numbers of several documents. -/
def numbersOfItems : List Document → List Number
  | [] => []
  | item :: more => numbers item ++ numbersOfItems more

/-- The numbers of the values of members. -/
def numbersOfMembers : Members → List Number
  | [] => []
  | (_, item) :: more => numbers item ++ numbersOfMembers more

end

end Document

open Document

theorem Ascii.square : (openBracket, closeBracket) ∈ brackets := by decide

theorem Ascii.curly : (openBrace, closeBrace) ∈ brackets := by decide

open Ascii (square curly)

namespace Standard

open Grammar Scan

variable {depth : Nat} {bytes text : Bytes} {d : Document}

/-- What the literals of a stretch spell, in order. -/
def numbersOf : Meaning → List Number
  | .value d => d.numbers
  | .moreItems items => numbersOfItems items
  | .moreMembers members => numbersOfMembers members

/-- These are the literals of a stretch. What follows the first item or member of a container has what ends a literal
in front of it, and a value has not. -/
def HasLiterals (bytes : Bytes) : Meaning → List Bytes → Prop
  | .value _ => Holds bytes
  | _ => Closes bytes

/-- **The literals of a stretch spell its numbers.** For each number that the standard finds in a stretch, there is
one literal that the scan finds there, in the same order, and it is a numeral of that number. The induction is on the
derivation; a value may end in a literal that might go on, while the rest of an array or object begins with what ends
one. -/
theorem exists_literals {p : Meaning} (h : Stretch depth bytes p) :
    ∃ literals, List.Forall₂ Numeral literals (numbersOf p) ∧ HasLiterals bytes p literals := by
  induction h with
  | null | yes | no => exact ⟨[], .nil, (quiet_of_forall (by decide +kernel)).holds⟩
  | number numeral => exact ⟨[_], .cons numeral .nil, holds_numeral numeral⟩
  | string quoted => exact ⟨[], .nil, (quiet_quoted quoted).holds⟩
  | emptyArray blank => exact ⟨[], .nil, (closes_bracket square blank).enclosed square quiet_nil quiet_nil.holds⟩
  | array blank _ _ item more =>
    obtain ⟨first, spellFirst, holds⟩ := item
    obtain ⟨others, spellOthers, closes⟩ := more
    exact ⟨_, List.rel_append spellFirst spellOthers, closes.enclosed square (quiet_blank blank) holds⟩
  | emptyObject blank => exact ⟨[], .nil, (closes_bracket curly blank).enclosed curly quiet_nil quiet_nil.holds⟩
  | object blank lead _ _ item more =>
    obtain ⟨first, spellFirst, holds⟩ := item
    obtain ⟨others, spellOthers, closes⟩ := more
    have front := (quiet_blank blank).append (quiet_lead lead)
    have object := closes.enclosed curly front holds
    rw [List.append_assoc] at object
    exact ⟨_, List.rel_append spellFirst spellOthers, object⟩
  | itemsEnd blank => exact ⟨[], .nil, closes_bracket square blank⟩
  | nextItem before after _ _ item more =>
    obtain ⟨first, spellFirst, holds⟩ := item
    obtain ⟨others, spellOthers, closes⟩ := more
    exact ⟨_, List.rel_append spellFirst spellOthers, closes.next before (quiet_blank after) holds⟩
  | membersEnd blank => exact ⟨[], .nil, closes_bracket curly blank⟩
  | nextMember before after lead _ _ item more =>
    obtain ⟨first, spellFirst, holds⟩ := item
    obtain ⟨others, spellOthers, closes⟩ := more
    have front := (quiet_blank after).append (quiet_lead lead)
    have members := closes.next before front holds
    rw [List.append_assoc] at members
    exact ⟨_, List.rel_append spellFirst spellOthers, members⟩

/-- The literals of a text spell the numbers of the document as it is written. -/
theorem numerals_of_text (h : Text depth text d) : List.Forall₂ Numeral (numerals text) d.numbers := by
  obtain ⟨blank, stretch, blank'⟩ := h
  obtain ⟨literals, spell, holds⟩ := exists_literals stretch
  obtain ⟨spot, found⟩ := holds 0 []
  rw [numerals, after_append, quiet_blank blank, after_append, found_after_blank blank' spot, found]
  exact spell

end Standard

/-! ## Layouts -/

namespace Standard.Writes

open Scan

variable {document : Document → Bytes} {lead : String → Bytes} {gap close : Bytes}
  {moreItems : List Document → Bytes} {moreMembers : Members → Bytes}
  (h : Writes document lead gap moreItems moreMembers) (closing : Blank close)

include h closing

/-- The literals of the items behind the first one are those of their numbers, and the closing bracket ends the last
one. -/
theorem closes_moreItems {items : List Document}
    (each : ∀ item ∈ items, Holds (document item) (item.numbers.map Number.literal)) :
    Closes (moreItems items ++ (close ++ [Ascii.closeBracket])) ((numbersOfItems items).map Number.literal) := by
  induction items with
  | nil =>
    rw [h.noItems]
    exact closes_bracket square closing
  | cons item more ih =>
    have others := ih fun d hd => each d (List.mem_cons_of_mem item hd)
    have both := others.next blank_nil (quiet_blank h.blank) (each item List.mem_cons_self)
    rw [h.nextItem, numbersOfItems, List.map_append]
    simpa only [List.nil_append, List.cons_append, List.append_assoc] using both

/-- The literals of the members behind the first one are those of their values' numbers; the digits in their names are
none. -/
theorem closes_moreMembers {members : Members}
    (each : ∀ m ∈ members, Holds (document m.2) (m.2.numbers.map Number.literal)) :
    Closes (moreMembers members ++ (close ++ [Ascii.closeBrace]))
      ((numbersOfMembers members).map Number.literal) := by
  induction members with
  | nil =>
    rw [h.noMembers]
    exact closes_bracket curly closing
  | cons m more ih =>
    obtain ⟨name, item⟩ := m
    have others := ih fun m hm => each m (List.mem_cons_of_mem _ hm)
    have front := (quiet_blank h.blank).append (quiet_lead (h.led name))
    have both := others.next blank_nil front (each _ List.mem_cons_self)
    rw [h.nextMember, numbersOfMembers, List.map_append]
    simpa only [List.nil_append, List.cons_append, List.append_assoc] using both

end Standard.Writes

namespace Layout

open Scan

variable {depth : Nat}

/-- **The literals of a layout are those of its numbers**, at any indentation. The induction is on how the document is
well-formed. -/
theorem holds_document {d : Document} (h : d.WellFormed depth) (indent : Nat) :
    Holds (document indent d) (d.numbers.map Number.literal) := by
  -- Items stand one step further in, so the induction is on the document for every indentation.
  induction h generalizing indent with
  | null =>
    have word : Quiet nullWord := quiet_of_forall (by decide +kernel)
    exact word.holds
  | bool value =>
    have word : Quiet (boolWord value) := by
      cases value <;> exact quiet_of_forall (by decide +kernel)
    exact word.holds
  | number valid => exact holds_numeral (numeral_literal valid)
  | string text => exact (quiet_quoted (quoted_ascii text)).holds
  | @array _ items _ ih =>
    cases items with
    | nil => exact (closes_bracket square blank_nil).enclosed square quiet_nil quiet_nil.holds
    | cons item more =>
      have closes := (writes (indent + 1)).closes_moreItems (blank_newLine indent) fun d hd =>
        ih d (List.mem_cons_of_mem item hd) (indent + 1)
      have array := closes.enclosed square (quiet_blank (blank_newLine (indent + 1)))
        (ih item List.mem_cons_self (indent + 1))
      rw [numbers, numbersOfItems, List.map_append]
      simpa only [document, List.cons_append, List.append_assoc] using array
  | @object _ members _ _ _ ih =>
    cases members with
    | nil => exact (closes_bracket curly blank_nil).enclosed curly quiet_nil quiet_nil.holds
    | cons m more =>
      obtain ⟨name, item⟩ := m
      have closes := (writes (indent + 1)).closes_moreMembers (blank_newLine indent) fun m hm =>
        ih m (List.mem_cons_of_mem _ hm) (indent + 1)
      have front := (quiet_blank (blank_newLine (indent + 1))).append (quiet_lead (lead_nameLead name))
      have object := closes.enclosed curly front (ih _ List.mem_cons_self (indent + 1))
      rw [numbers, numbersOfMembers, List.map_append]
      simpa only [document, List.cons_append, List.append_assoc] using object

end Layout

namespace Document

/-- The literals of a layout are those of the document's numbers. -/
theorem numerals_of_layout {depth : Nat} {d : Document} (h : d.WellFormed depth) :
    numerals d.layout = d.numbers.map Number.literal := by
  obtain ⟨-, found⟩ := Layout.holds_document h 0 0 []
  exact found

/-! ## Documents that are read as they are written -/

/-- In no object of a document is a name repeated or the mark a name. -/
inductive Plain : Document → Prop
  | null : Plain .null
  | bool (value : Bool) : Plain (.bool value)
  | number (literal : Number) : Plain (.number literal)
  | string (text : String) : Plain (.string text)
  | array {items : List Document} : (∀ item ∈ items, Plain item) → Plain (.array items)
  | object {members : Members} :
    members.names.Nodup → Reader.numberMark ∉ members.names → (∀ m ∈ members, Plain m.2) → Plain (.object members)

variable {d : Document} {text : Bytes}

theorem resolveItems?_eq_self {items : List Document} (h : ∀ item ∈ items, item.resolve? = some item) :
    resolveItems? items = some items := by
  induction items with
  | nil => rfl
  | cons item more ih =>
    have others := ih fun d hd => h d (List.mem_cons_of_mem item hd)
    exact resolveItems?_cons_iff.mpr ⟨_, _, h item List.mem_cons_self, others, rfl⟩

theorem resolveMembers?_eq_self {members : Members} (h : ∀ m ∈ members, m.2.resolve? = some m.2) :
    resolveMembers? members = some members := by
  induction members with
  | nil => rfl
  | cons m more ih =>
    have others := ih fun x hx => h x (List.mem_cons_of_mem m hx)
    exact resolveMembers?_cons_iff.mpr ⟨_, _, h m List.mem_cons_self, others, rfl⟩

/-- A plain document is read as it is written, because no object in it has the mark in front or a name twice. -/
theorem Plain.resolve?_eq_self (h : d.Plain) : d.resolve? = some d := by
  induction h with
  | null | bool | number | string => rfl
  | array _ ih => rw [resolve?, resolveItems?_eq_self ih, Option.map_some]
  | @object members distinct unmarked _ ih =>
    have first : members.names.head? ≠ some Reader.numberMark := fun h => unmarked (List.mem_of_mem_head? h)
    rw [resolve?, if_neg first, resolveMembers?_eq_self ih, Option.map_some, Members.insertAll_nil distinct]

/-- **The number literals of a layout are those of the text, with the exponents respelled.** They are the same ones
exactly if the text spells no exponent with a capital letter or without a sign. -/
theorem numerals_layout (written : Standard.Text depthLimit text d) (plain : d.Plain) :
    read text = .ok d ∧ numerals d.layout = (numerals text).map Number.respell ∧
      (numerals d.layout = numerals text ↔ ∀ literal ∈ numerals text, Number.IsSettled literal) := by
  have hread : read text = .ok d := (read_text_iff written).mpr plain.resolve?_eq_self
  have spelled : (numerals text).map Number.respell = d.numbers.map Number.literal := by
    have same : List.Forall₂ (fun literal n => Number.respell literal = Number.literal n) _ _ :=
      (numerals_of_text written).imp fun _ _ => respell_numeral
    exact List.forall₂_eq_eq_eq ▸ List.forall₂_map_left_iff.mpr (List.forall₂_map_right_iff.mpr same)
  have layout : numerals d.layout = (numerals text).map Number.respell := by
    rw [numerals_of_layout (wellFormed_of_read hread), spelled]
  refine ⟨hread, layout, ?_⟩
  have each := List.map_inj_left (f := Number.respell) (g := id) (l := numerals text)
  rw [List.map_id] at each
  rw [layout, each]
  exact forall₂_congr fun literal _ => Number.respell_eq_self_iff

/-- Numbers in each of the ways to spell an exponent, and digits that are none. -/
theorem numerals_layout_nested :
    let text := Ascii.bytes "[-0.50E+07, \x7b\"e5\": 1e400, \"\\\"2\": \"3E4\"\x7d, 0E-0, 12e+3]"
    let d := Document.array
      [.number ⟨true, [0], [5, 0], some ⟨false, [0, 7]⟩⟩,
        .object [("e5", .number ⟨false, [1], [], some ⟨false, [4, 0, 0]⟩⟩), ("\"2", .string "3E4")],
        .number ⟨false, [0], [], some ⟨true, [0]⟩⟩, .number ⟨false, [1, 2], [], some ⟨false, [3]⟩⟩]
    Standard.Text depthLimit text d ∧ d.Plain ∧
      numerals d.layout = [Ascii.bytes "-0.50e+07", Ascii.bytes "1e+400", Ascii.bytes "0e-0", Ascii.bytes "12e+3"] ∧
      read text = .ok d ∧ numerals d.layout = (numerals text).map Number.respell ∧
      (numerals d.layout = numerals text ↔ ∀ literal ∈ numerals text, Number.IsSettled literal) := by
  intro text d
  have blank := Standard.blank_nil
  have space := Layout.blank_space
  have written : Standard.Text depthLimit text d := by
    have small : Standard.Stretch 126 _ (.value (.number ⟨true, [0], [5, 0], some ⟨false, [0, 7]⟩⟩)) :=
      .number (.negative .zero .digits (.digits (.inr rfl) .plus))
    have large : Standard.Stretch 125 _ (.value (.number ⟨false, [1], [], some ⟨false, [4, 0, 0]⟩⟩)) :=
      .number (.positive (.digits (by decide)) .none (.digits (.inl rfl) .none))
    have digits : Standard.Stretch 125 _ (.value (.string "3E4")) := .string (Layout.quoted_ascii "3E4")
    have zero : Standard.Stretch 126 _ (.value (.number ⟨false, [0], [], some ⟨true, [0]⟩⟩)) :=
      .number (.positive .zero .none (.digits (.inr rfl) .minus))
    have settled : Standard.Stretch 126 _ (.value (.number ⟨false, [1, 2], [], some ⟨false, [3]⟩⟩)) :=
      .number (.positive (.digits (by decide)) .none (.digits (.inl rfl) .plus))
    have members := Standard.Stretch.nextMember blank space (Layout.lead_nameLead "\"2") digits (.membersEnd blank)
    have object := Standard.Stretch.object blank (Layout.lead_nameLead "e5") large members
    have items := Standard.Stretch.nextItem blank space object
      (.nextItem blank space zero (.nextItem blank space settled (.itemsEnd blank)))
    have array := Standard.Stretch.array blank small items
    refine Eq.mpr (congrArg (fun bytes => Standard.Text depthLimit bytes d) ?_) (.mk blank array blank)
    decide +kernel
  have plain : d.Plain := by
    refine .array fun item hitem => ?_
    simp only [List.mem_cons, List.not_mem_nil, or_false] at hitem
    rcases hitem with rfl | rfl | rfl | rfl
    · exact .number _
    · refine .object (by decide) (by decide) fun m hm => ?_
      rcases List.mem_pair.mp hm with rfl | rfl
      · exact .number _
      · exact .string _
    · exact .number _
    · exact .number _
  exact ⟨written, plain, by decide +kernel, numerals_layout written plain⟩

/-- **A number literal may change.** Here its letter does, and it gets a sign. -/
theorem numerals_layout_respelled :
    let text := Ascii.bytes "[1E5]"
    let d := Document.array [.number ⟨false, [1], [], some ⟨false, [5]⟩⟩]
    Standard.Text depthLimit text d ∧ d.Plain ∧ read text = .ok d ∧ numerals text = [Ascii.bytes "1E5"] ∧
      numerals d.layout = [Ascii.bytes "1e+5"] ∧ numerals d.layout ≠ numerals text := by
  intro text d
  have item : Standard.Stretch 126 _ (.value (.number ⟨false, [1], [], some ⟨false, [5]⟩⟩)) :=
    .number (.positive (.digits (by decide)) .none (.digits (.inr rfl) .none))
  have array := Standard.Stretch.array Standard.blank_nil item (.itemsEnd Standard.blank_nil)
  have written : Standard.Text depthLimit text d := .mk Standard.blank_nil array Standard.blank_nil
  have plain : d.Plain := by
    refine .array fun item hitem => ?_
    exact List.mem_singleton.mp hitem ▸ .number _
  have hread : read text = .ok d := (read_text_iff written).mpr plain.resolve?_eq_self
  exact ⟨written, plain, hread, by decide +kernel, by decide +kernel, by decide +kernel⟩

end Document
end Relabel
