import Relabel.Proofs.Json.RoundTrip
import Relabel.Proofs.Json.Spot

/-!
# Texts that are laid out

`LaidOut` says what it is for a text to be laid out for people, in rules about its bytes: how a line begins and ends,
how an empty array is written, and what stands around a colon. The rules know nothing of documents or of how the text
came about. What they need to know is whether a byte stands inside a string and how many arrays and objects are open
there, and that is the byte's `Spot`.

Each rule is about one byte with what is in front of it and what is behind it (`Placed`), and a text keeps them if all
of its bytes are in their places (`laidOut_of_allPlaced`). Unlike the rules themselves, places can be checked piece by
piece, each piece between the pieces around it (`AllPlaced.append`). Two kinds of pieces need no look at what is around
them: tokens of plain bytes, and what is inside a string (`Inside`), where the rules ask for nothing but ASCII on one
line.
-/

namespace Relabel

open Reader (isBlank skipBlank)

variable {front back bytes more : Bytes} {b : UInt8} {depth indent : Nat}

/-! ## Texts that are laid out -/

/-- There is a last byte, and it is no white space. -/
def Trimmed (bytes : Bytes) : Prop := ∃ line b, bytes = line ++ [b] ∧ isBlank b = false

theorem Trimmed.append_left (h : Trimmed bytes) (front : Bytes) : Trimmed (front ++ bytes) := by
  obtain ⟨line, b, rfl, visible⟩ := h
  exact ⟨front ++ line, b, (List.append_assoc _ _ _).symm, visible⟩

theorem Trimmed.cons (h : Trimmed bytes) : Trimmed (b :: bytes) := h.append_left [b]

theorem trimmed_single (visible : isBlank b = false) (front : Bytes) : Trimmed (front ++ [b]) :=
  ⟨front, b, rfl, visible⟩

/-- How a line goes on behind its line feed, with `depth` arrays and objects open there: four spaces for each of them,
not counting one that the first bracket closes, and then no white space. -/
def Indented (depth : Nat) (back : Bytes) : Prop :=
  ∃ b rest, isBlank b = false ∧
    back = List.replicate (4 * if Ascii.isClosing b then depth - 1 else depth) Ascii.space ++ b :: rest

/-- **The rules of a layout**, said of the bytes of a text and the spots where they stand. -/
structure LaidOut (text : Bytes) : Prop where
  ascii : ∀ b ∈ text, b.toNat < 0x80
  /-- A line feed stands outside strings, and an indented line follows it. -/
  lines : ∀ front back, text = front ++ Ascii.lineFeed :: back →
    ∃ depth, Spot.behind front = .outside depth ∧ Indented depth back
  /-- Neither a line nor the text ends in white space. -/
  trimmed : ∀ front back, text = front ++ back → back = [] ∨ back.head? = some Ascii.lineFeed → Trimmed front
  /-- An empty array or object is its two brackets. -/
  empty : ∀ front opening gap closing back depth, text = front ++ opening :: (gap ++ closing :: back) →
    Spot.behind front = .outside depth → Ascii.isOpening opening = true → Standard.Blank gap →
    Ascii.isClosing closing = true → gap = [] ∧ (opening, closing) ∈ Ascii.brackets
  /-- A colon stands right behind a name, and one space stands between it and a value. -/
  colons : ∀ front back depth, text = front ++ Ascii.colon :: back → Spot.behind front = .outside depth →
    (∃ name, front = name ++ [Ascii.quote]) ∧ ∃ b rest, isBlank b = false ∧ back = Ascii.space :: b :: rest

/-! ## Bytes in their places -/

/-- What follows an opening bracket: its closing bracket, or a line that does not start with a closing one. -/
def Opens (b : UInt8) (back : Bytes) : Prop :=
  (∃ c rest, (b, c) ∈ Ascii.brackets ∧ back = c :: rest) ∨
    ∃ indent c rest, isBlank c = false ∧ Ascii.isClosing c = false ∧ back = Layout.newLine indent ++ c :: rest

/-- What the rules of a layout ask of one byte, given the bytes in front of it and behind it. -/
structure Placed (front : Bytes) (b : UInt8) (back : Bytes) : Prop where
  ascii : b.toNat < 0x80
  line : b = Ascii.lineFeed → Trimmed front ∧ ∃ depth, Spot.behind front = .outside depth ∧ Indented depth back
  opening : ∀ depth, Spot.behind front = .outside depth → Ascii.isOpening b = true → Opens b back
  colon : ∀ depth, Spot.behind front = .outside depth → b = Ascii.colon →
    (∃ name, front = name ++ [Ascii.quote]) ∧ ∃ c rest, isBlank c = false ∧ back = Ascii.space :: c :: rest

/-- All bytes of a stretch are in their places, given what is in front of the stretch and behind it. -/
def AllPlaced (front bytes back : Bytes) : Prop :=
  ∀ x b y, bytes = x ++ b :: y → Placed (front ++ x) b (y ++ back)

theorem allPlaced_nil : AllPlaced front [] back := by
  intro x b y h
  exact absurd h.symm (List.append_ne_nil_of_right_ne_nil x (List.cons_ne_nil b y))

/-- **Places can be checked piece by piece.** For the bytes of the first piece, the second one is a part of what is
behind them; for those of the second piece, the first one is a part of what is in front. So two pieces that are
checked apart, each with the other one beside it, have been checked together. -/
theorem AllPlaced.append (h : AllPlaced front bytes (more ++ back)) (h' : AllPlaced (front ++ bytes) more back) :
    AllPlaced front (bytes ++ more) back := by
  intro x b y shape
  rcases List.append_eq_append_iff.mp shape with ⟨rest, rfl, hmore⟩ | ⟨rest, hbytes, htail⟩
  · rw [← List.append_assoc]
    exact h' rest b y hmore
  · cases rest with
    | nil =>
      rw [List.append_nil] at hbytes
      have placed := h' [] b y htail.symm
      rwa [List.append_nil, hbytes] at placed
    | cons c rest =>
      obtain rfl : b = c := (List.cons.inj htail).1
      have hy : y = rest ++ more := (List.cons.inj htail).2
      rw [hy, List.append_assoc]
      exact h x b rest hbytes

/-- One byte in front of a stretch is checked by itself. -/
theorem AllPlaced.cons (first : Placed front b (bytes ++ back)) (others : AllPlaced (front ++ [b]) bytes back) :
    AllPlaced front (b :: bytes) back := by
  have single : AllPlaced front [b] (bytes ++ back) := by
    intro x c y shape
    obtain ⟨rfl, same⟩ | ⟨x', -, none⟩ := List.cons_eq_append_iff.mp shape
    · obtain ⟨rfl, rfl⟩ := List.cons.inj same
      rw [List.append_nil]
      exact first
    · exact absurd none.symm (List.append_ne_nil_of_right_ne_nil x' (List.cons_ne_nil c y))
  exact single.append others

/-- **A text is laid out if its bytes are in their places** and the last one is no white space. Four of the five rules
are said of a single byte as they are. The one about empty arrays and objects is not: it is about two brackets and the
gap between them. There the place of the first bracket says what comes next, which is either the second one or a line
that does not begin with a closing bracket. -/
theorem laidOut_of_allPlaced (h : AllPlaced [] bytes []) (ends : Trimmed bytes) : LaidOut bytes := by
  have placed : ∀ front b back, bytes = front ++ b :: back → Placed front b back := by
    intro front b back shape
    have hp := h front b back shape
    rwa [List.nil_append, List.append_nil] at hp
  constructor
  case ascii =>
    intro b hb
    obtain ⟨front, back, shape⟩ := List.append_of_mem hb
    exact (placed front b back shape).ascii
  case lines =>
    intro front back shape
    exact ((placed front _ back shape).line rfl).2
  case trimmed =>
    rintro front back shape (rfl | atLineFeed)
    · rw [List.append_nil] at shape
      exact shape ▸ ends
    · obtain ⟨more, rfl⟩ := List.head?_eq_some_iff.mp atLineFeed
      exact ((placed front _ more shape).line rfl).1
  case empty =>
    intro front opening gap closing back depth shape outside opens blank closes
    have notBlank : isBlank closing = false := by
      simp only [Ascii.isClosing, Bool.or_eq_true, decide_eq_true_eq] at closes
      rcases closes with rfl | rfl <;> rfl
    -- Either way the first byte behind the gap is known from two sides.
    rcases (placed front opening _ shape).opening depth outside opens with
      ⟨c, rest, pair, same⟩ | ⟨indent, c, rest, visible, notClosing, same⟩
    · cases gap with
      | nil =>
        obtain ⟨rfl, -⟩ := List.cons.inj same
        exact ⟨rfl, pair⟩
      | cons g gap =>
        obtain ⟨rfl, -⟩ := List.cons.inj same
        have visible : isBlank g = false := by
          simp only [Ascii.brackets, List.mem_cons, Prod.mk.injEq, List.not_mem_nil, or_false] at pair
          rcases pair with ⟨-, rfl⟩ | ⟨-, rfl⟩ <;> rfl
        rw [Standard.isBlank_iff.mpr (blank g List.mem_cons_self)] at visible
        cases visible
    · have first := congrArg skipBlank same
      rw [Standard.skipBlank_append blank, Layout.skipBlank_newLine] at first
      simp only [skipBlank, List.dropWhile_cons, notBlank, visible, Bool.false_eq_true, ↓reduceIte,
        List.cons.injEq] at first
      rw [first.1, notClosing] at closes
      cases closes
  case colons =>
    intro front back depth shape outside
    exact (placed front _ back shape).colon depth outside rfl

/-! ## Tokens -/

/-- A byte of which the rules ask nothing wherever it stands. -/
def IsInert (b : UInt8) : Prop :=
  b.toNat < 0x80 ∧ b ≠ Ascii.lineFeed ∧ b ≠ Ascii.colon ∧ Ascii.isOpening b = false

instance (b : UInt8) : Decidable (IsInert b) := inferInstanceAs (Decidable (_ ∧ _ ∧ _ ∧ _))

theorem IsInert.placed (h : IsInert b) : Placed front b back where
  ascii := h.1
  line same := absurd same h.2.1
  opening _ _ opens := by rw [h.2.2.2] at opens; cases opens
  colon _ _ same := absurd same h.2.2.1

theorem allPlaced_of_inert (h : ∀ b ∈ bytes, IsInert b) : AllPlaced front bytes back := by
  rintro x b y rfl
  exact (h b (List.mem_append_right x List.mem_cons_self)).placed

/-- A byte that goes on a word or a number. -/
def IsPlain (b : UInt8) : Prop :=
  IsInert b ∧ isBlank b = false ∧ b ≠ Ascii.quote ∧ Ascii.isClosing b = false

instance (b : UInt8) : Decidable (IsPlain b) := inferInstanceAs (Decidable (_ ∧ _ ∧ _ ∧ _))

/-- The bytes of a word or a number. -/
def Plain (bytes : Bytes) : Prop := ∀ b ∈ bytes, IsPlain b

instance (bytes : Bytes) : Decidable (Plain bytes) := List.decidableBAll IsPlain bytes

namespace Spot

/-- A word or a number leads out of no string and into none, and leaves as many arrays and objects open as there were.
-/
theorem after_of_plain (h : Plain bytes) : (outside depth).after bytes = .outside depth := by
  induction bytes with
  | nil => rfl
  | cons b bytes ih =>
    obtain ⟨⟨-, -, -, notOpening⟩, -, notQuote, notClosing⟩ := h b List.mem_cons_self
    have stays : (outside depth).step b = .outside depth := by
      simp only [step, if_neg notQuote, notOpening, notClosing, Bool.false_eq_true, ↓reduceIte]
    rw [after_cons, stays]
    exact ih fun c hc => h c (List.mem_cons_of_mem b hc)

end Spot

/-! ## Strings -/

/-- A stretch of a string: it does not end the string, its bytes are in their places there, and nothing of it is
white space between tokens. -/
structure Inside (bytes : Bytes) : Prop where
  stays : ∀ depth, (Spot.inside depth).after bytes = .inside depth
  placed : ∀ depth front back, Spot.behind front = .inside depth → AllPlaced front bytes back
  kept : ∀ depth, (Spot.inside depth).condense bytes = bytes

/-- Inside a string the rules ask of a byte that it is ASCII and no line feed. -/
theorem placed_inside (ascii : b.toNat < 0x80) (notLineFeed : b ≠ Ascii.lineFeed)
    (h : ∀ depth, Spot.behind front ≠ .outside depth) : Placed front b back where
  ascii := ascii
  line same := absurd same notLineFeed
  opening depth outside := absurd outside (h depth)
  colon depth outside := absurd outside (h depth)

theorem Inside.nil : Inside [] := ⟨fun _ => rfl, fun _ _ _ _ => allPlaced_nil, fun _ => rfl⟩

theorem Inside.append (h : Inside bytes) (h' : Inside more) : Inside (bytes ++ more) where
  stays depth := by rw [Spot.after_append, h.stays, h'.stays]
  placed depth front back spot := by
    refine (h.placed depth front _ spot).append (h'.placed depth _ back ?_)
    rw [Spot.behind_append, spot, h.stays]
  kept depth := by rw [Spot.condense_append, h.kept, h.stays, h'.kept]

theorem Inside.flatMap {α : Type} {write : α → Bytes} {xs : List α} (h : ∀ x ∈ xs, Inside (write x)) :
    Inside (xs.flatMap write) := by
  induction xs with
  | nil => exact .nil
  | cons x xs ih => exact (h x List.mem_cons_self).append (ih fun y hy => h y (List.mem_cons_of_mem x hy))

/-- A byte of ASCII may stand in a string by itself, unless it ends the line, ends the string or begins an escape. -/
theorem inside_single (ascii : b.toNat < 0x80) (notLineFeed : b ≠ Ascii.lineFeed) (notQuote : b ≠ Ascii.quote)
    (notBackslash : b ≠ Ascii.backslash) : Inside [b] where
  stays depth := by simp only [Spot.after_cons, Spot.step, if_neg notQuote, if_neg notBackslash, Spot.after_nil]
  placed depth front back spot := by
    refine AllPlaced.cons (placed_inside ascii notLineFeed fun _ => ?_) allPlaced_nil
    rw [spot]
    exact fun h => nomatch h
  kept _ := rfl

/-- Behind a backslash any byte is one more byte of the string. -/
theorem inside_escape (ascii : b.toNat < 0x80) (notLineFeed : b ≠ Ascii.lineFeed) :
    Inside [Ascii.backslash, b] where
  stays _ := rfl
  placed depth front back spot := by
    have backslash : (Spot.inside depth).after [Ascii.backslash] = .escaped depth := rfl
    refine AllPlaced.cons (placed_inside (by decide) (by decide) fun _ => ?_)
      (AllPlaced.cons (placed_inside ascii notLineFeed fun _ => ?_) allPlaced_nil)
    · rw [spot]
      exact fun h => nomatch h
    · rw [Spot.behind_append, spot, backslash]
      exact fun h => nomatch h
  kept _ := rfl

namespace Escape

/-- A code unit may stand in a string: a backslash and five bytes that are letters and digits. -/
theorem inside_unitEscape (unit : Nat) : Inside (unitEscape unit) := by
  have digit (n : Nat) : Inside [Ascii.hexDigit (n % 16)] := by
    have each : ∀ n < 16, (Ascii.hexDigit n).toNat < 0x80 ∧ Ascii.hexDigit n ≠ Ascii.lineFeed ∧
        Ascii.hexDigit n ≠ Ascii.quote ∧ Ascii.hexDigit n ≠ Ascii.backslash := by decide
    obtain ⟨ascii, notLineFeed, notQuote, notBackslash⟩ := each (n % 16) (Nat.mod_lt n (Nat.succ_pos 15))
    exact inside_single ascii notLineFeed notQuote notBackslash
  have lead : Inside [Ascii.backslash, Ascii.byte 'u'] := inside_escape (by decide) (by decide)
  exact (((lead.append (digit _)).append (digit _)).append (digit _)).append (digit _)

/-- What is written for a character of ASCII may stand in a string. The characters that may not stand there by
themselves, which are the quotation mark, the backslash and the line feed among the control characters, are written by
escapes. -/
theorem inside_asciiChar {c : Char} (h : c.toNat < 0x80) : Inside (asciiChar c) := by
  unfold asciiChar
  repeat' split
  -- Seven characters have a letter, the other control characters a unit; what is left stands for itself.
  iterate 7 exact inside_escape (by decide) (by decide)
  · exact inside_unitEscape _
  · next notQuote notBackslash _ _ _ _ _ visible =>
    have number : (Ascii.byte c).toNat = c.toNat := toNat_byte h
    refine inside_single (by omega) (fun same => ?_) (byte_ne_byte h (by decide) notQuote)
      (byte_ne_byte h (by decide) notBackslash)
    rw [same] at number
    exact visible (number ▸ (by decide : Ascii.lineFeed.toNat < 0x20))

/-- **What is written for any character may stand in a string.** So a layout can be judged without regard to what its
strings say. -/
theorem inside_ascii (c : Char) : Inside (ascii c) := by
  unfold ascii
  split
  · next h => exact inside_asciiChar h
  · exact .flatMap fun unit _ => inside_unitEscape unit

end Escape

end Relabel
