import Relabel.Json.Layout
import Relabel.Proofs.Json.Escape
import Relabel.Proofs.Json.WellFormed

/-!
# A layout is read back

The layout of a well-formed document is read as that document: nesting, order of names, strings and number
literals (`Document.read_layout`). The induction is on `Document.WellFormed`, and its statement is about a
layout in the middle of a text (`phrase_of_document`): at any indentation, with anything behind it that could
not go on a number. What stands behind an item is a comma, a line feed or the end of the text, so the
condition is met wherever the layout puts a document.

Indentation does not matter to the reader because white space in front of a phrase does not
(`Phrase.congr`), so nothing here depends on how wide it is.

The condition that the mark is not an object's first name is needed: with the mark in front, an object of
several members has a layout that is no text of a document (`Document.read_layout_marked`).
-/

namespace Relabel
namespace Layout

open Grammar Reader

variable {rest : Bytes}

/-! ## Tokens -/

/-- Indentation is white space. -/
theorem skipBlank_newLine (indent : Nat) (bytes : Bytes) :
    skipBlank (newLine indent ++ bytes) = skipBlank bytes := by
  have spaces : ∀ n, skipBlank (List.replicate n Ascii.space ++ bytes) = skipBlank bytes := by
    intro n
    induction n with
    | zero => rfl
    | succ n ih => exact ih
  exact spaces _

/-- A new line could not go on a number. -/
theorem stops_newLine (indent : Nat) (bytes : Bytes) : Number.Stops (newLine indent ++ bytes) :=
  Number.stops_cons _ (by decide)

/-- The words of the layout are those of the grammar. -/
theorem phrase_boolWord {depth : Nat} (value : Bool) :
    Phrase depth (boolWord value ++ rest) (.value (.bool value)) rest := by
  cases value with
  | true => exact .yes rfl
  | false => exact .no rfl

/-- A written number is read with its sign. -/
theorem phrase_literal {depth : Nat} {n : Number} (h : n.wellFormed = true) (stops : Number.Stops rest) :
    Phrase depth (n.literal ++ rest) (.value (.number n)) rest := by
  have scanned := Number.scanUnsigned_literal h stops
  rw [Number.literal_eq]
  cases hn : n.negative with
  | true =>
    rw [hn] at scanned
    exact .negative rfl scanned
  | false =>
    rw [hn] at scanned
    obtain ⟨⟨d, more, digits, -⟩, -⟩ := Number.wellFormed_iff.mp h
    have front : ∃ tail, n.unsignedLiteral ++ rest = d.toByte :: tail := by
      simp only [Number.unsignedLiteral, digits, List.map_cons, List.cons_append]
      exact ⟨_, rfl⟩
    have notBlank : ∀ d : Digit, isBlank d.toByte = false := by decide
    obtain ⟨tail, front⟩ := front
    rw [front] at scanned
    simp only [Bool.false_eq_true, ↓reduceIte, List.nil_append, front]
    refine .positive ?_ (Digit.isDigit_toByte d) scanned
    simp only [skipBlank, List.dropWhile_cons, notBlank, Bool.false_eq_true, ↓reduceIte]

/-- A written string is read as its text. -/
theorem phrase_quoted {depth : Nat} (text : String) :
    Phrase depth (Escape.quoted Escape.ascii text ++ rest) (.value (.string text)) rest := by
  simp only [Escape.quoted, List.cons_append, List.append_assoc, List.nil_append]
  exact .string rfl (Escape.text_flatMap Escape.ascii_faithful text rest)

/-- A written name is read as itself, and the colon stands behind it. -/
theorem name_nameLead (name : String) (bytes : Bytes) :
    ∃ afterQuote, nameLead name ++ bytes = Ascii.quote :: afterQuote ∧
      Text afterQuote name (Ascii.colon :: Ascii.space :: bytes) := by
  simp only [nameLead, Escape.quoted, List.cons_append, List.append_assoc, List.nil_append]
  exact ⟨_, rfl, Escape.text_flatMap Escape.ascii_faithful name _⟩

/-! ## Items and members -/

/-- At any indentation and before anything that could not go on a number, the layout of a document is read
as the document. -/
def ReadBack (depth : Nat) (d : Document) : Prop :=
  ∀ (indent : Nat) {rest : Bytes}, Number.Stops rest →
    Phrase depth (document indent d ++ rest) (.value d) rest

variable {depth : Nat}

/-- What is read back is read back on a new line. -/
theorem ReadBack.onNewLine {d : Document} (h : ReadBack depth d) (line indent : Nat)
    (stops : Number.Stops rest) :
    Phrase depth (newLine line ++ (document indent d ++ rest)) (.value d) rest :=
  (h indent stops).congr (skipBlank_newLine line _).symm

/-- What is read back is read back behind a colon and a space. -/
theorem ReadBack.afterColon {d : Document} (h : ReadBack depth d) (indent : Nat)
    (stops : Number.Stops rest) :
    Phrase depth (Ascii.space :: (document indent d ++ rest)) (.value d) rest := by
  have blank : skipBlank (Ascii.space :: (document indent d ++ rest)) =
      skipBlank (document indent d ++ rest) := rfl
  exact (h indent stops).congr blank.symm

/-- Nothing behind an item or a member could go on a number. -/
theorem stops_moreItems (indent line : Nat) (items : List Document) (bytes : Bytes) :
    Number.Stops (moreItems indent items ++ (newLine line ++ bytes)) := by
  cases items with
  | nil => exact stops_newLine line bytes
  | cons item more => exact Number.stops_cons _ (by decide)

theorem stops_moreMembers (indent line : Nat) (members : Members) (bytes : Bytes) :
    Number.Stops (moreMembers indent members ++ (newLine line ++ bytes)) := by
  cases members with
  | nil => exact stops_newLine line bytes
  | cons m more =>
    obtain ⟨name, item⟩ := m
    exact Number.stops_cons _ (by decide)

/-- The items behind the first one are read back, up to the closing bracket on its own line. -/
theorem phrase_moreItems (indent line : Nat) {items : List Document}
    (h : ∀ item ∈ items, ReadBack depth item) :
    Phrase depth (moreItems indent items ++ (newLine line ++ Ascii.closeBracket :: rest))
      (.moreItems items) rest := by
  induction items with
  | nil => exact .itemsEnd (skipBlank_newLine line _)
  | cons item more ih =>
    have first := h item List.mem_cons_self
    have others := ih fun d hd => h d (List.mem_cons_of_mem item hd)
    simp only [moreItems, List.cons_append, List.append_assoc]
    exact .nextItem rfl (first.onNewLine indent indent (stops_moreItems indent line more _)) others

/-- The members behind the first one are read back, up to the closing bracket on its own line. -/
theorem phrase_moreMembers (indent line : Nat) {members : Members}
    (h : ∀ m ∈ members, ReadBack depth m.2) :
    Phrase depth (moreMembers indent members ++ (newLine line ++ Ascii.closeBrace :: rest))
      (.moreMembers members) rest := by
  induction members with
  | nil => exact .membersEnd (skipBlank_newLine line _)
  | cons m more ih =>
    obtain ⟨name, item⟩ := m
    have first : ReadBack depth item := h _ List.mem_cons_self
    have others := ih fun m hm => h m (List.mem_cons_of_mem _ hm)
    obtain ⟨afterQuote, quote, named⟩ := name_nameLead name
      (document indent item ++ (moreMembers indent more ++ (newLine line ++ Ascii.closeBrace :: rest)))
    simp only [moreMembers, List.cons_append, List.append_assoc, quote]
    exact .nextMember rfl (skipBlank_newLine indent _) named rfl
      (first.afterColon indent (stops_moreMembers indent line more _)) others

/-! ## Documents -/

/-- **The layout of a well-formed document is read back.** The induction is on how the document is well-formed, in
step with the reader: what the layout writes next is what the grammar has next. The depth is used up by the brackets
alone, and so it is enough for any document that keeps within it. -/
theorem readBack_of_wellFormed {d : Document} (h : d.WellFormed depth) : ReadBack depth d := by
  induction h with
  | null => exact fun _ _ _ => .null rfl
  | bool value => exact fun _ _ _ => phrase_boolWord value
  | number valid => exact fun _ _ stops => phrase_literal valid stops
  | string text => exact fun _ _ _ => phrase_quoted text
  | @array depth items _ ih =>
    intro indent rest _
    cases items with
    | nil => exact .emptyArray rfl rfl
    | cons item more =>
      have first := ih item List.mem_cons_self
      have others : Phrase depth _ (.moreItems more) rest :=
        phrase_moreItems (indent + 1) indent fun d hd => ih d (List.mem_cons_of_mem item hd)
      simp only [document, List.cons_append, List.append_assoc, List.nil_append]
      exact .array rfl (first.onNewLine _ _ (stops_moreItems _ _ more _)) others
  | @object depth members distinct unmarked _ ih =>
    intro indent rest _
    cases members with
    | nil => exact .emptyObject rfl rfl
    | cons m more =>
      obtain ⟨name, item⟩ := m
      have first : ReadBack depth item := ih _ List.mem_cons_self
      have others : Phrase depth _ (.moreMembers more) rest :=
        phrase_moreMembers (indent + 1) indent fun m hm => ih m (List.mem_cons_of_mem _ hm)
      have kept : Members.insertAll [(name, item)] more = (name, item) :: more :=
        Members.insertAll_eq_append distinct
      have notMark : name ≠ numberMark := fun h => unmarked (congrArg some h)
      obtain ⟨afterQuote, quote, named⟩ := name_nameLead name
        (document (indent + 1) item ++
          (moreMembers (indent + 1) more ++ (newLine indent ++ Ascii.closeBrace :: rest)))
      simp only [document, List.cons_append, List.append_assoc, List.nil_append, quote]
      rw [← kept]
      exact .object rfl (skipBlank_newLine _ _) named notMark rfl
        (first.afterColon _ (stops_moreMembers _ indent more _)) others

/-- **An object of several members with the mark in front is laid out in vain**: what is read of its layout is the
written form of a number, of which nothing but the closing bracket may follow the first value, and here a comma does.
-/
theorem not_phrase_marked {x : Document} (hx : x.WellFormed depth) (m : String × Document)
    (more : Members) (indent : Nat) (after : Bytes) {d : Document} :
    ¬ Phrase (depth + 1) (document indent (.object ((numberMark, x) :: m :: more)) ++ after)
      (.value d) rest := by
  intro h
  simp only [document, List.cons_append, List.append_assoc, List.nil_append] at h
  obtain ⟨afterQuote, quote, named⟩ := name_nameLead numberMark
    (document (indent + 1) x ++
      (moreMembers (indent + 1) (m :: more) ++ (newLine indent ++ Ascii.closeBrace :: after)))
  rw [quote] at h
  obtain ⟨_, _, named', marked⟩ := exists_of_object h rfl (skipBlank_newLine _ _)
  obtain ⟨rfl, rfl⟩ := named.unique named'
  obtain ⟨n, hcolon, hquote, text, -, close⟩ := marked rfl
  cases hcolon
  -- The value under the mark is a string, so it is the whole of what is laid out for `x`.
  have written := (readBack_of_wellFormed hx).afterColon (indent + 1)
    (stops_moreMembers (indent + 1) indent (m :: more) (Ascii.closeBrace :: after))
  obtain ⟨-, rfl⟩ := (Phrase.string hquote text).unique written
  obtain ⟨name, y⟩ := m
  simp only [moreMembers, List.cons_append] at close
  cases close

end Layout

namespace Document

/-- **The layout of a well-formed document is a text of the document.** -/
theorem read_layout {d : Document} (h : d.WellFormed depthLimit) : read d.layout = .ok d := by
  have phrase := Layout.readBack_of_wellFormed h 0 Number.stops_nil
  rw [List.append_nil] at phrase
  exact read_ok_iff.mpr ⟨[], phrase, rfl⟩

/-- The layout of an object of several members with the mark in front is no text of a document. -/
theorem read_layout_marked {x : Document} {m : String × Document} {more : Members}
    (hx : x.WellFormed (depthLimit - 1)) :
    ∃ fault, read (layout (.object ((Reader.numberMark, x) :: m :: more))) = .error fault := by
  cases h : read (layout (.object ((Reader.numberMark, x) :: m :: more))) with
  | error fault => exact ⟨fault, rfl⟩
  | ok d =>
    obtain ⟨rest, phrase, -⟩ := read_ok_iff.mp h
    rw [layout, ← List.append_nil (Layout.document 0 _)] at phrase
    exact absurd phrase (Layout.not_phrase_marked hx m more 0 [])

/-- Different documents have different layouts. -/
theorem layout_injective {d d' : Document} (h : d.WellFormed depthLimit) (h' : d'.WellFormed depthLimit)
    (same : d.layout = d'.layout) : d = d' := by
  have read_d := read_layout h
  rw [same, read_layout h'] at read_d
  exact (Except.ok.inj read_d).symm

/-- **Reading and layout are inverse to each other.** Whatever is read is well-formed; every well-formed
document is read back from its layout; so no two documents that were read share a layout, and a layout that
is read and laid out again does not change. -/
theorem layout_roundTrip :
    (∀ text d, read text = .ok d → d.WellFormed depthLimit) ∧
      (∀ d, WellFormed depthLimit d → read d.layout = .ok d) ∧
      (∀ text text' d d', read text = .ok d → read text' = .ok d' → d.layout = d'.layout → d = d') ∧
      (∀ d d', WellFormed depthLimit d → read d.layout = .ok d' → d'.layout = d.layout) := by
  refine ⟨fun _ _ => wellFormed_of_read, fun _ => read_layout, ?_, ?_⟩
  · intro text text' d d' h h' same
    exact layout_injective (wellFormed_of_read h) (wellFormed_of_read h') same
  · intro d d' valid h
    rw [read_layout valid] at h
    rw [Except.ok.inj h]

/-- The mark in second place, an astral character in a name, an exponent and an empty array survive. -/
theorem layout_roundTrip_sample :
    let d := Document.object
      [("\n\x7f😀", .array [.number ⟨true, [0], [5], some ⟨false, [3]⟩⟩, .string "\x22\\é", .array []]),
        (Reader.numberMark, .null)]
    d.WellFormed depthLimit ∧ read d.layout = .ok d := by
  intro d
  have valid : d.WellFormed depthLimit := by
    refine .object (by decide) (by decide) fun m hm => ?_
    rcases List.mem_pair.mp hm with rfl | rfl
    · refine .array fun item hitem => ?_
      simp only [List.mem_cons, List.not_mem_nil, or_false] at hitem
      rcases hitem with rfl | rfl | rfl
      · exact .number rfl
      · exact .string _
      · exact .array fun _ h => nomatch h
    · exact .null
  exact ⟨valid, layout_roundTrip.2.1 d valid⟩

end Document
end Relabel
