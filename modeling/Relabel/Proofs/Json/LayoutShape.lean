import Relabel.Json.Compact
import Relabel.Proofs.Json.CompactText
import Relabel.Proofs.Json.Formatter
import Relabel.Proofs.Json.LaidOut

/-!
# The shape of a layout

**The law** (`Document.layout_shape`): what is written of a document that was read, when it is indented, keeps the rules
of `LaidOut`, and what is left of it without the white space outside strings is what is written of the document when it
is not, in another spelling. So the two formatters differ in two things, the white space between tokens and the spelling
of characters beyond ASCII (`Respelled`), and each of the two differences is known to the byte.

That the formatters, with their callbacks and what they keep in mind, write the layout of the document and the document
on one line is in `Relabel.Proofs.Json.Formatter`; here are the rules. Both parts of the law go through the document
once. `Lays` is what is known of a phrase that is laid out at an indentation, given the same phrase on one line: a
document, a member, or several of them behind one another. Phrases are put together in the ways in which the layout does
it: in a row (`Lays.append`), behind a comma on a new line (`Lays.next`), behind a name (`Lays.member`), between
brackets (`Lays.enclosed`). How many arrays and objects are open and what is left without white space is known of any
stretch (`Spans`), a bracket alone or a gap as well, and comes with its pieces. The indentation of a phrase is the
number of arrays and objects that are open where it stands; that is the invariant, and the line of a closing bracket is
the one place where the two differ.

**What it does not say** is where the lines break. That each item and each member has a line of its own is in the
definition of the layout; the rules here would also hold of a text with several items on a line.
-/

namespace Relabel

open Reader (isBlank)

variable {front back bytes more : Bytes} {b : UInt8} {depth indent : Nat}

/-! ## Another spelling -/

/-- Two spellings of one run of characters, the first one in UTF-8 and the second one in ASCII. -/
def Respelled (bytes spelling : Bytes) : Prop :=
  ∃ cs : List Char, bytes = Utf8.encodeChars cs ∧ spelling = cs.flatMap Escape.spelled

variable {spelling spelling' : Bytes}

theorem Respelled.append (h : Respelled bytes spelling) (h' : Respelled more spelling') :
    Respelled (bytes ++ more) (spelling ++ spelling') := by
  obtain ⟨cs, rfl, rfl⟩ := h
  obtain ⟨cs', rfl, rfl⟩ := h'
  exact ⟨cs ++ cs', List.flatMap_append.symm, List.flatMap_append.symm⟩

theorem respelled_nil : Respelled [] [] := ⟨[], rfl, rfl⟩

/-- ASCII bytes are spelled alike. -/
theorem respelled_ascii (h : ∀ b ∈ bytes, b.toNat < 0x80) : Respelled bytes bytes := by
  induction bytes with
  | nil => exact respelled_nil
  | cons b bytes ih =>
    have small : b.toNat < 0x80 := h b List.mem_cons_self
    have code : (Char.ofNat b.toNat).toNat = b.toNat := Utf8.toNat_ofNat (.inl (by omega))
    have itself : Ascii.byte (Char.ofNat b.toNat) = b := Utf8.toUInt8_eq code
    have single : Respelled [b] [b] := by
      refine ⟨[Char.ofNat b.toNat], ?_, ?_⟩
      · rw [Utf8.encodeChars, List.flatMap_singleton, Standard.encodeChar_of_lt (code.symm ▸ small), itself]
      · rw [List.flatMap_singleton, Escape.spelled, if_pos (code.symm ▸ small), itself]
    exact single.append (ih fun c hc => h c (List.mem_cons_of_mem b hc))

theorem Respelled.cons (small : b.toNat < 0x80) (h : Respelled bytes spelling) :
    Respelled (b :: bytes) (b :: spelling) := by
  have single : Respelled [b] [b] := respelled_ascii (by simpa using small)
  exact single.append h

namespace Escape

theorem ascii_lt_of_asciiChar {c : Char} (h : c.toNat < 0x80) : ∀ b ∈ asciiChar c, b.toNat < 0x80 := by
  intro b hb
  obtain ⟨x, y, shape⟩ := List.append_of_mem hb
  have front : Spot.behind [Ascii.quote] = .inside 0 := rfl
  exact ((inside_asciiChar h).placed 0 _ [] front x b y shape).ascii

/-- A character is written in two ways, of which the one in ASCII spells the other one. Where a character needs an
escape on one line, it has the same escape in a layout. -/
theorem respelled_char (c : Char) : Respelled (raw c) (ascii c) := by
  unfold raw ascii
  split
  · next h => exact respelled_ascii (ascii_lt_of_asciiChar h)
  · next h =>
    refine ⟨[c], (List.flatMap_singleton _ _).symm, ?_⟩
    rw [List.flatMap_singleton, spelled, if_neg h]

theorem respelled_flatMap (cs : List Char) : Respelled (cs.flatMap raw) (cs.flatMap ascii) := by
  induction cs with
  | nil => exact respelled_nil
  | cons c cs ih => exact (respelled_char c).append ih

end Escape

/-! ## Stretches -/

/-- A stretch of a layout outside strings, and what stands for it on one line: where the stretch leads, in the number of
arrays and objects that are open, and what is left of it without its white space. -/
structure Spans (depth depth' : Nat) (laid line : Bytes) : Prop where
  reaches : (Spot.outside depth).after laid = .outside depth'
  condensed : Respelled line ((Spot.outside depth).condense laid)

variable {depth' depth'' : Nat} {opening closing : UInt8} {laid line laid' line' : Bytes}

/-- **Stretches in a row.** The second one begins with as many arrays and objects open as the first one leaves, and
what is left of both without their white space is what is left of the one and then of the other. -/
theorem Spans.append (h : Spans depth depth' laid line) (h' : Spans depth' depth'' laid' line') :
    Spans depth depth'' (laid ++ laid') (line ++ line') where
  reaches := by rw [Spot.after_append, h.reaches, h'.reaches]
  condensed := by
    rw [Spot.condense_append, h.reaches]
    exact h.condensed.append h'.condensed

theorem Spans.behind (h : Spans depth depth' laid line) (outside : Spot.behind front = .outside depth) :
    Spot.behind (front ++ laid) = .outside depth' := by
  rw [Spot.behind_append, outside, h.reaches]

/-- A gap between tokens is not there on one line. -/
theorem spans_blank (h : Standard.Blank bytes) : Spans depth depth bytes [] where
  reaches := Spot.after_of_blank h
  condensed := by
    rw [Spot.condense_of_blank h]
    exact respelled_nil

theorem spans_newLine : Spans depth depth (Layout.newLine indent) [] := spans_blank (Layout.blank_newLine indent)

theorem spans_single (step : (Spot.outside depth).step b = .outside depth') (visible : isBlank b = false)
    (ascii : b.toNat < 0x80) : Spans depth depth' [b] [b] where
  reaches := step
  condensed := by
    rw [Spot.condense_of_not_isBlank visible, Spot.condense_nil]
    exact .cons ascii respelled_nil

theorem spans_plain (h : Plain bytes) : Spans depth depth bytes bytes where
  reaches := Spot.after_of_plain h
  condensed := by
    rw [Spot.condense_of_visible fun b hb => (h b hb).2.1]
    exact respelled_ascii fun b hb => (h b hb).1.1

theorem spans_comma : Spans depth depth [Ascii.comma] [Ascii.comma] := spans_single rfl (by decide) (by decide)

theorem spans_colon : Spans depth depth [Ascii.colon] [Ascii.colon] := spans_single rfl (by decide) (by decide)

/-! ## Phrases -/

/-- A phrase of a layout in two forms, laid out at an indentation and on one line: a document or a member, or several
of them behind one another. -/
structure Lays (indent : Nat) (laid line : Bytes) : Prop extends Spans indent indent laid line where
  starts : ∃ b rest, laid = b :: rest ∧ isBlank b = false ∧ Ascii.isClosing b = false
  ends : Trimmed laid
  placed : ∀ front back, Spot.behind front = .outside indent → AllPlaced front laid back

theorem lays_plain (nonempty : bytes ≠ []) (h : Plain bytes) : Lays indent bytes bytes where
  toSpans := spans_plain h
  starts := by
    obtain ⟨b, rest, rfl⟩ := List.exists_cons_of_ne_nil nonempty
    obtain ⟨-, visible, -, notClosing⟩ := h b List.mem_cons_self
    exact ⟨b, rest, rfl, visible, notClosing⟩
  ends := by
    obtain ⟨visible, -⟩ := (h _ (List.getLast_mem nonempty)).2
    rw [← List.dropLast_append_getLast nonempty]
    exact trimmed_single visible _
  placed _ _ _ := allPlaced_of_inert fun b hb => (h b hb).1

/-- **A string is a phrase.** It begins and ends with a quotation mark, neither of which the rules ask anything of,
and what is between them may stand inside a string. Nothing of it is white space between tokens, so that all of it is
left on one line, in another spelling. -/
theorem lays_quoted (text : String) :
    Lays indent (Escape.quoted Escape.ascii text) (Escape.quoted Escape.raw text) := by
  have inner : Inside (text.toList.flatMap Escape.ascii) := .flatMap fun c _ => Escape.inside_ascii c
  have opened : (Spot.outside indent).step Ascii.quote = .inside indent := rfl
  have closed : (Spot.inside indent).step Ascii.quote = .outside indent := rfl
  have visible : isBlank Ascii.quote = false := rfl
  constructor
  case toSpans =>
    constructor
    case reaches =>
      simp only [Escape.quoted, List.cons_append, Spot.after_cons, Spot.after_append, opened, inner.stays, closed,
        Spot.after_nil]
    case condensed =>
      have kept :
          (Spot.outside indent).condense (Escape.quoted Escape.ascii text) = Escape.quoted Escape.ascii text := by
        rw [Escape.quoted, List.cons_append, Spot.condense_of_not_isBlank visible, opened, Spot.condense_append,
          inner.kept, inner.stays, Spot.condense_of_not_isBlank visible, Spot.condense_nil]
      have quote : Ascii.quote.toNat < 0x80 := by decide
      rw [kept]
      exact .cons quote ((Escape.respelled_flatMap _).append (.cons quote respelled_nil))
  case starts => exact ⟨_, _, rfl, visible, rfl⟩
  case ends => exact trimmed_single visible _
  case placed =>
    intro front back outside
    have quote : ∀ {front back}, Placed front Ascii.quote back := fun {_ _} => IsInert.placed (by decide)
    have behind : Spot.behind (front ++ [Ascii.quote]) = .inside indent := by
      rw [Spot.behind_append, outside, Spot.after_cons, opened, Spot.after_nil]
    exact .cons quote (.append (inner.placed _ _ _ behind) (.cons quote allPlaced_nil))

/-- Two phrases in a row. -/
theorem Lays.append (h : Lays indent laid line) (h' : Lays indent laid' line') :
    Lays indent (laid ++ laid') (line ++ line') where
  toSpans := h.toSpans.append h'.toSpans
  starts := by
    obtain ⟨b, rest, rfl, visible, notClosing⟩ := h.starts
    exact ⟨b, rest ++ laid', rfl, visible, notClosing⟩
  ends := h'.ends.append_left laid
  placed front back outside := (h.placed front _ outside).append (h'.placed _ back (h.behind outside))

/-! ## Members -/

/-- A colon is in its place between a quotation mark and one space. -/
theorem placed_colon (visible : isBlank b = false) :
    Placed (front ++ [Ascii.quote]) Ascii.colon (Ascii.space :: b :: back) where
  ascii := by decide
  line same := by cases same
  opening _ _ opens := by cases opens
  colon _ _ _ := ⟨⟨front, rfl⟩, b, back, visible, rfl⟩

/-- A member is its name, a colon and a space, and its value. -/
theorem nameLead_append (name : String) :
    Layout.nameLead name ++ laid = Escape.quoted Escape.ascii name ++ ([Ascii.colon] ++ ([Ascii.space] ++ laid)) := by
  rw [Layout.nameLead, List.append_assoc]
  rfl

/-- A member is laid out if its value is. -/
theorem Lays.member (h : Lays indent laid line) (name : String) :
    Lays indent (Layout.nameLead name ++ laid) (Compact.nameLead name ++ line) := by
  have quoted : Lays indent _ _ := lays_quoted name
  have space : Spans indent indent [Ascii.space] [] := spans_blank Layout.blank_space
  have lead := quoted.toSpans.append (spans_colon.append (space.append h.toSpans))
  rw [nameLead_append, Compact.nameLead, List.append_assoc]
  constructor
  case toSpans => exact lead
  case starts =>
    obtain ⟨b, rest, shape, visible, notClosing⟩ := quoted.starts
    exact ⟨b, _, by rw [shape, List.cons_append], visible, notClosing⟩
  case ends => exact ((h.ends.append_left _).append_left _).append_left _
  case placed =>
    intro front back outside
    obtain ⟨b, rest, shape, visible, -⟩ := h.starts
    -- In front of the colon is the quotation mark that ends the name.
    have colon : Placed (front ++ Escape.quoted Escape.ascii name) Ascii.colon (Ascii.space :: (laid ++ back)) := by
      rw [Escape.quoted, ← List.append_assoc, shape, List.cons_append]
      exact placed_colon visible
    have inert : Placed (front ++ Escape.quoted Escape.ascii name ++ [Ascii.colon]) Ascii.space (laid ++ back) :=
      IsInert.placed (by decide)
    have value := h.placed _ back (space.behind (spans_colon.behind (quoted.behind outside)))
    exact .append (quoted.placed front _ outside) (.cons colon (.cons inert value))

/-! ## Lines -/

/-- A line feed is in its place behind what does not end in white space, outside of strings, and in front of an
indented line. -/
theorem placed_lineFeed (ends : Trimmed front) (outside : Spot.behind front = .outside depth)
    (follows : Indented depth back) : Placed front Ascii.lineFeed back where
  ascii := by decide
  line _ := ⟨ends, depth, outside, follows⟩
  opening _ _ opens := by cases opens
  colon _ _ same := by cases same

/-- A line feed with its indentation is in its place behind a token and in front of an indented one. -/
theorem allPlaced_newLine (ends : Trimmed front) (outside : Spot.behind front = .outside depth)
    (follows : Indented depth (List.replicate (4 * indent) Ascii.space ++ back)) :
    AllPlaced front (Layout.newLine indent) back := by
  refine .cons (placed_lineFeed ends outside follows) (allPlaced_of_inert fun b hb => ?_)
  rw [List.eq_of_mem_replicate hb]
  decide

/-- What starts a phrase is indented by the arrays and objects that are open. -/
theorem Lays.indented (h : Lays indent laid line) :
    Indented indent (List.replicate (4 * indent) Ascii.space ++ (laid ++ back)) := by
  obtain ⟨b, rest, rfl, visible, notClosing⟩ := h.starts
  refine ⟨b, rest ++ back, visible, ?_⟩
  rw [notClosing, if_neg Bool.false_ne_true, List.cons_append]

/-- A phrase on a line of its own behind a comma. -/
theorem Lays.next (h : Lays indent laid line) :
    Lays indent (Ascii.comma :: (Layout.newLine indent ++ laid)) (Ascii.comma :: line) := by
  have comma : IsPlain Ascii.comma := by decide
  constructor
  case toSpans => exact spans_comma.append (spans_newLine.append h.toSpans)
  case starts => exact ⟨_, _, rfl, comma.2.1, comma.2.2.2⟩
  case ends => exact (h.ends.append_left _).cons
  case placed =>
    intro front back outside
    have behindComma := spans_comma.behind outside
    have newLine : AllPlaced (front ++ [Ascii.comma]) (Layout.newLine indent) (laid ++ back) :=
      allPlaced_newLine (trimmed_single comma.2.1 front) behindComma h.indented
    exact .cons comma.1.placed (.append newLine (h.placed _ back (spans_newLine.behind behindComma)))

/-! ## Brackets -/

/-- What the two brackets of an array or object are. -/
theorem brackets_bytes (pair : (opening, closing) ∈ Ascii.brackets) :
    (opening.toNat < 0x80 ∧ opening ≠ Ascii.lineFeed ∧ opening ≠ Ascii.colon ∧ isBlank opening = false ∧
        Ascii.isClosing opening = false) ∧
      IsInert closing ∧ isBlank closing = false ∧ Ascii.isClosing closing = true := by
  simp only [Ascii.brackets, List.mem_cons, Prod.mk.injEq, List.not_mem_nil, or_false] at pair
  rcases pair with ⟨rfl, rfl⟩ | ⟨rfl, rfl⟩ <;> decide

/-- An opening bracket leads into an array or object, and its closing bracket out of it. -/
theorem spans_brackets (pair : (opening, closing) ∈ Ascii.brackets) (depth : Nat) :
    Spans depth (depth + 1) [opening] [opening] ∧ Spans (depth + 1) depth [closing] [closing] := by
  obtain ⟨opened, closed⟩ := Spot.step_brackets pair depth
  obtain ⟨⟨ascii, -, -, visible, -⟩, inert, visible', -⟩ := brackets_bytes pair
  exact ⟨spans_single opened visible ascii, spans_single closed visible' inert.1⟩

/-- An opening bracket is in its place in front of its closing one, or of a line that does not begin with one. -/
theorem placed_opening (pair : (opening, closing) ∈ Ascii.brackets) (opens : Opens opening back) :
    Placed front opening back := by
  obtain ⟨⟨ascii, notLineFeed, notColon, -⟩, -⟩ := brackets_bytes pair
  exact ⟨ascii, fun same => absurd same notLineFeed, fun _ _ _ => opens, fun _ _ same => absurd same notColon⟩

/-- An empty array or object. -/
theorem lays_brackets (pair : (opening, closing) ∈ Ascii.brackets) :
    Lays indent [opening, closing] [opening, closing] := by
  obtain ⟨opened, closed⟩ := spans_brackets pair indent
  obtain ⟨⟨-, -, -, visible, notClosing⟩, inert, visible', -⟩ := brackets_bytes pair
  constructor
  case toSpans => exact opened.append closed
  case starts => exact ⟨_, _, rfl, visible, notClosing⟩
  case ends => exact trimmed_single visible' [opening]
  case placed =>
    intro front back _
    exact .cons (placed_opening pair (.inl ⟨closing, back, pair, rfl⟩)) (.cons inert.placed allPlaced_nil)

/-- The bracket that closes an array or object is not counted among the open ones. -/
theorem indented_closing (pair : (opening, closing) ∈ Ascii.brackets) :
    Indented (indent + 1) (List.replicate (4 * indent) Ascii.space ++ closing :: back) := by
  obtain ⟨-, -, visible, closes⟩ := brackets_bytes pair
  refine ⟨closing, back, visible, ?_⟩
  rw [closes, if_pos rfl, Nat.add_sub_cancel]

/-- **An array or object with something in it is a phrase.** Each bracket is on a line of its own, with lines between
them. What is inside is indented one step further than the brackets: it is a phrase at the indentation that the
opening bracket leads to, and the closing bracket, which leads back, stands on a line that is indented as the phrase
itself. -/
theorem Lays.enclosed (pair : (opening, closing) ∈ Ascii.brackets) (h : Lays (indent + 1) laid line) :
    Lays indent (opening :: (Layout.newLine (indent + 1) ++ (laid ++ (Layout.newLine indent ++ [closing]))))
      (opening :: (line ++ [closing])) := by
  obtain ⟨opened, closed⟩ := spans_brackets pair indent
  obtain ⟨⟨-, -, -, visible, notClosing⟩, inert, visible', -⟩ := brackets_bytes pair
  constructor
  case toSpans =>
    exact opened.append (spans_newLine.append (h.toSpans.append (spans_newLine.append closed)))
  case starts => exact ⟨_, _, rfl, visible, notClosing⟩
  case ends =>
    have last : Trimmed [closing] := trimmed_single visible' []
    exact (((last.append_left _).append_left _).append_left _).cons
  case placed =>
    intro front back outside
    obtain ⟨b, rest, shape, visibleFirst, notClosingFirst⟩ := h.starts
    have opens :
        Opens opening (Layout.newLine (indent + 1) ++ (laid ++ (Layout.newLine indent ++ [closing])) ++ back) := by
      rw [List.append_assoc, shape, List.cons_append, List.cons_append]
      exact .inr ⟨indent + 1, b, _, visibleFirst, notClosingFirst, rfl⟩
    -- The spots in a row: behind the opening bracket, behind the line feed, behind what is inside.
    have spotOpened := opened.behind outside
    have newLine : Spans (indent + 1) (indent + 1) (Layout.newLine (indent + 1)) [] := spans_newLine
    have spotFirst := newLine.behind spotOpened
    refine .cons (placed_opening pair opens) (.append ?_ (.append ?_ (.append ?_ (.cons inert.placed allPlaced_nil))))
    · rw [List.append_assoc]
      exact allPlaced_newLine (trimmed_single visible front) spotOpened h.indented
    · exact h.placed _ _ spotFirst
    · exact allPlaced_newLine (h.ends.append_left _) (h.behind spotFirst) (indented_closing pair)

/-! ## Documents -/

namespace Layout

/-- **Items behind one another are a phrase**, the first one without a comma. Each of the others begins a line of its
own behind its comma, at the indentation of the first one. -/
theorem lays_items {item : Document} {items : List Document}
    (h : ∀ d ∈ item :: items, Lays indent (document indent d) (Compact.document d)) :
    Lays indent (document indent item ++ moreItems indent items)
      (Compact.document item ++ Compact.moreItems items) := by
  induction items generalizing item with
  | nil =>
    rw [moreItems, Compact.moreItems, List.append_nil, List.append_nil]
    exact h item List.mem_cons_self
  | cons next items ih =>
    have others := (ih fun d hd => h d (List.mem_cons_of_mem item hd)).next
    have both := (h item List.mem_cons_self).append others
    simpa only [moreItems, Compact.moreItems, List.cons_append, List.append_assoc] using both

/-- Members behind one another, the first one without a comma. -/
theorem lays_members {first : String × Document} {members : Members}
    (h : ∀ m ∈ first :: members, Lays indent (document indent m.2) (Compact.document m.2)) :
    Lays indent (nameLead first.1 ++ (document indent first.2 ++ moreMembers indent members))
      (Compact.nameLead first.1 ++ (Compact.document first.2 ++ Compact.moreMembers members)) := by
  induction members generalizing first with
  | nil =>
    rw [moreMembers, Compact.moreMembers, List.append_nil, List.append_nil]
    exact (h first List.mem_cons_self).member first.1
  | cons next members ih =>
    have others := (ih fun m hm => h m (List.mem_cons_of_mem first hm)).next
    have both := ((h first List.mem_cons_self).member first.1).append others
    simpa only [moreMembers, Compact.moreMembers, List.cons_append, List.append_assoc] using both

theorem lays_number {n : Number} (h : n.wellFormed = true) : Lays indent n.literal n.literal := by
  obtain ⟨⟨d, more, digits, -⟩, -⟩ := Number.wellFormed_iff.mp h
  refine lays_plain ?_ (n.forall_mem_literal (by decide) (by decide))
  rw [Number.literal, digits]
  simp

/-- **A document is laid out at any indentation, and in step with its one line.** The induction is on how the document
is well-formed. The invariant is that the indentation is the number of arrays and objects that are open, which the
brackets keep up (`Lays.enclosed`); an item or a member is indented by it whatever it is itself. -/
theorem lays_of_wellFormed {d : Document} (h : d.WellFormed depth) (indent : Nat) :
    Lays indent (document indent d) (Compact.document d) := by
  -- Items stand one step further in, so the induction is on the document for every indentation.
  induction h generalizing indent with
  | null =>
    have word : Lays indent nullWord nullWord := lays_plain (by decide) (by decide)
    exact word
  | bool value =>
    have word : Lays indent (boolWord value) (boolWord value) := by
      cases value <;> exact lays_plain (by decide) (by decide)
    exact word
  | number valid => exact lays_number valid
  | string text => exact lays_quoted text
  | @array depth items _ ih =>
    have pair : (Ascii.openBracket, Ascii.closeBracket) ∈ Ascii.brackets := by decide
    cases items with
    | nil => exact lays_brackets pair
    | cons item more =>
      have lines := (lays_items fun d hd => ih d hd (indent + 1)).enclosed pair
      simpa only [document, Compact.document, List.cons_append, List.append_assoc] using lines
  | @object depth members _ _ _ ih =>
    have pair : (Ascii.openBrace, Ascii.closeBrace) ∈ Ascii.brackets := by decide
    cases members with
    | nil => exact lays_brackets pair
    | cons m more =>
      obtain ⟨name, item⟩ := m
      have lines := (lays_members fun m hm => ih m hm (indent + 1)).enclosed pair
      simpa only [document, Compact.document, List.cons_append, List.append_assoc] using lines

end Layout

namespace Document

/-- **What is written of a document that was read is laid out.** No callback of the formatters fails. What the one that
indents has written in the end, in ASCII, keeps the rules: it is the layout of the document. Without the white space
outside strings it is what the plain formatter has written, which is the document on one line, character by character in
the spelling of ASCII. -/
theorem layout_shape {text : Bytes} {d : Document} (h : read text = .ok d) :
    d.render? = some d.layout ∧ d.line? = some d.compact ∧ LaidOut d.layout ∧
      ∃ line : List Char, d.compact = Utf8.encodeChars line ∧
        Spot.condense (.outside 0) d.layout = line.flatMap Escape.spelled := by
  have lays := Layout.lays_of_wellFormed (wellFormed_of_read h) 0
  exact ⟨d.render?_eq, d.line?_eq, laidOut_of_allPlaced (lays.placed [] [] rfl) lays.ends, lays.condensed⟩

/-- Brackets, colons and line feeds inside strings, a character beyond ASCII, and an empty object inside an array. -/
theorem layout_shape_nested :
    let d := Document.object [("[\n: ", .array [.number ⟨true, [0], [5], none⟩, .string "é", .object []])]
    read d.compact = .ok d ∧
      d.render? = some (Ascii.bytes
        "\x7b\n    \"[\\n: \": [\n        -0.5,\n        \"\\u00e9\",\n        \x7b\x7d\n    ]\n\x7d") ∧
      d.line? = some d.compact ∧ LaidOut d.layout ∧
      ∃ line : List Char, d.compact = Utf8.encodeChars line ∧
        Spot.condense (.outside 0) d.layout = line.flatMap Escape.spelled := by
  intro d
  have valid : d.WellFormed depthLimit := by
    refine .object (by decide) (by decide) (List.forall_mem_singleton.mpr (.array fun item hitem => ?_))
    simp only [List.mem_cons, List.not_mem_nil, or_false] at hitem
    rcases hitem with rfl | rfl | rfl
    · exact .number rfl
    · exact .string _
    · exact .object List.nodup_nil (by decide) fun _ h => nomatch h
  have h : read d.compact = .ok d := read_compact valid
  obtain ⟨rendered, line, shape⟩ := layout_shape h
  have layout : d.layout = Ascii.bytes
      "\x7b\n    \"[\\n: \": [\n        -0.5,\n        \"\\u00e9\",\n        \x7b\x7d\n    ]\n\x7d" := by decide +kernel
  exact ⟨h, rendered.trans (congrArg some layout), line, shape⟩

end Document
end Relabel
