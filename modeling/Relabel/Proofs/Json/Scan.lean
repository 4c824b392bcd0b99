import Relabel.Proofs.Json.Spot

/-!
# The number literals of a text

`numerals text` are the number literals that stand in a text, as they are spelled there, in order. They are found by
one pass over the bytes (`Scan.step`) that knows nothing of the grammar: outside strings a literal begins with a digit
or a minus and goes on as long as there are digits, signs, points and exponent letters.

What the pass finds in a text is put together from what it finds in stretches of it. Two kinds of stretches have to be
told apart by where a literal may end. A value may end in one, and only what is behind the value shows that it has
ended there (`Scan.Holds`). The rest of an array or an object begins with what ends a literal and closes with a bracket
(`Scan.Closes`). Between them there are stretches in which no literal is found and none goes on (`Scan.Quiet`).
-/

namespace Relabel

/-- Whether a byte begins a number literal. -/
def Ascii.startsNumeral (b : UInt8) : Bool := isDigit b || b = minus

/-- Whether a byte goes on a number literal. -/
def Ascii.continuesNumeral (b : UInt8) : Bool :=
  isDigit b || b = minus || b = plus || b = dot || b = byte 'e' || b = byte 'E'

/-- What is known of the number literals in a text after some of its bytes. -/
structure Scan where
  /-- Where the bytes end. -/
  spot : Spot
  /-- The literals that have ended, in order. -/
  ended : List Bytes
  /-- The bytes of a literal that may go on, or none if there is no such literal. -/
  current : Bytes
  deriving DecidableEq, Repr

namespace Scan

open Ascii

/-- The literals found, with the one that may go on. -/
def found (scan : Scan) : List Bytes := scan.ended ++ if scan.current.isEmpty then [] else [scan.current]

/-- Whether a byte belongs to a literal. -/
def takes (scan : Scan) (b : UInt8) : Bool :=
  match scan.spot with
  | .outside _ => if scan.current.isEmpty then startsNumeral b else continuesNumeral b
  | _ => false

/-- What is known after one byte more. -/
def step (scan : Scan) (b : UInt8) : Scan :=
  if scan.takes b then ⟨scan.spot.step b, scan.ended, scan.current ++ [b]⟩ else ⟨scan.spot.step b, scan.found, []⟩

/-- What is known after some bytes more. -/
def after (scan : Scan) (bytes : Bytes) : Scan := bytes.foldl step scan

end Scan

/-- The number literals of a text, in order. -/
def numerals (text : Bytes) : List Bytes := (Scan.after ⟨.outside 0, [], []⟩ text).found

example : numerals (Ascii.bytes "[-0, \"1\\\"2\", \x7b\"3\":4.50E+7\x7d,true,6e01]") =
    [Ascii.bytes "-0", Ascii.bytes "4.50E+7", Ascii.bytes "6e01"] := by decide +kernel

namespace Scan

open Ascii Standard

variable {scan : Scan} {spot : Spot} {depth : Nat} {ended literals others : List Bytes} {b : UInt8}
  {bytes more gap literal : Bytes}

@[simp] theorem after_nil : scan.after [] = scan := rfl

@[simp] theorem after_cons : scan.after (b :: bytes) = (scan.step b).after bytes := rfl

@[simp] theorem after_append : scan.after (bytes ++ more) = (scan.after bytes).after more := List.foldl_append

@[simp] theorem found_of_ended : found ⟨spot, ended, []⟩ = ended := List.append_nil ended

/-! ## One byte -/

theorem spot_step : (scan.step b).spot = scan.spot.step b := by
  unfold step
  split <;> rfl

theorem spot_after : (scan.after bytes).spot = scan.spot.after bytes := by
  induction bytes generalizing scan with
  | nil => rfl
  | cons b bytes ih => rw [after_cons, ih, spot_step, Spot.after_cons]

theorem step_of_not_takes (h : scan.takes b = false) : scan.step b = ⟨scan.spot.step b, scan.found, []⟩ := by
  rw [step, h]
  rfl

/-- A byte that goes on no literal ends the one before it. -/
theorem step_of_ends (h : continuesNumeral b = false) : scan.step b = ⟨scan.spot.step b, scan.found, []⟩ := by
  apply step_of_not_takes
  have starts : startsNumeral b = false := by
    simp only [continuesNumeral, Bool.or_eq_false_iff] at h
    rw [startsNumeral, h.1.1.1.1.1, h.1.1.1.1.2]
    rfl
  unfold takes
  split
  · split
    · exact starts
    · exact h
  · rfl

theorem continuesNumeral_of_starts (h : startsNumeral b = true) : continuesNumeral b = true := by
  simp only [startsNumeral, Bool.or_eq_true] at h
  simp only [continuesNumeral, Bool.or_eq_true]
  tauto

/-- The bytes of literals are neither quotation marks nor brackets. -/
theorem step_outside_of_continues (h : continuesNumeral b = true) : (Spot.outside depth).step b = .outside depth := by
  have differs : ∀ c, continuesNumeral c = false → b ≠ c := by
    rintro c hc rfl
    rw [hc] at h
    cases h
  have notOpening : isOpening b = false := by
    simp [isOpening, differs openBracket (by decide), differs openBrace (by decide)]
  have notClosing : isClosing b = false := by
    simp [isClosing, differs closeBracket (by decide), differs closeBrace (by decide)]
  simp [Spot.step, differs quote (by decide), notOpening, notClosing]

theorem step_of_continues (h : continuesNumeral b = true) (nonempty : literal ≠ []) :
    step ⟨.outside depth, ended, literal⟩ b = ⟨.outside depth, ended, literal ++ [b]⟩ := by
  have taken : takes ⟨.outside depth, ended, literal⟩ b = true := by
    simp [takes, nonempty, h]
  rw [step, taken, if_pos rfl, step_outside_of_continues h]

theorem after_of_continues (h : ∀ b ∈ bytes, continuesNumeral b = true) (nonempty : literal ≠ []) :
    after ⟨.outside depth, ended, literal⟩ bytes = ⟨.outside depth, ended, literal ++ bytes⟩ := by
  induction bytes generalizing literal with
  | nil => rw [after_nil, List.append_nil]
  | cons b bytes ih =>
    obtain ⟨first, others⟩ := List.forall_mem_cons.mp h
    rw [after_cons, step_of_continues first nonempty, ih others (List.append_ne_nil_of_left_ne_nil nonempty _),
      List.append_assoc]
    rfl

/-! ## Stretches without literals -/

/-- Outside strings, where no literal goes on, the stretch leaves everything as it is. -/
def Quiet (bytes : Bytes) : Prop :=
  ∀ depth ended, after ⟨.outside depth, ended, []⟩ bytes = ⟨.outside depth, ended, []⟩

theorem Quiet.append (h : Quiet bytes) (h' : Quiet more) : Quiet (bytes ++ more) := by
  intro depth ended
  rw [after_append, h, h']

theorem quiet_nil : Quiet [] := fun _ _ => rfl

theorem quiet_of_forall
    (h : ∀ b ∈ bytes, startsNumeral b = false ∧ b ≠ quote ∧ isOpening b = false ∧ isClosing b = false) :
    Quiet bytes := by
  intro depth ended
  induction bytes with
  | nil => rfl
  | cons b bytes ih =>
    obtain ⟨⟨starts, notQuote, opening, closing⟩, others⟩ := List.forall_mem_cons.mp h
    have stays : (Spot.outside depth).step b = .outside depth := by simp [Spot.step, notQuote, opening, closing]
    have ends : takes ⟨.outside depth, ended, []⟩ b = false := starts
    rw [after_cons, step_of_not_takes ends, stays, found_of_ended]
    exact ih others

theorem quiet_blank (h : Blank gap) : Quiet gap := by
  refine quiet_of_forall fun b hb => ?_
  rcases h b hb with rfl | rfl | rfl | rfl <;> decide

/-- Inside a string, the stretch leaves everything as it is. -/
def Within (bytes : Bytes) : Prop :=
  ∀ depth ended, after ⟨.inside depth, ended, []⟩ bytes = ⟨.inside depth, ended, []⟩

theorem within_nil : Within [] := fun _ _ => rfl

theorem Within.append (h : Within bytes) (h' : Within more) : Within (bytes ++ more) := by
  intro depth ended
  rw [after_append, h, h']

theorem Within.cons (notQuote : b ≠ quote) (notBackslash : b ≠ backslash) (h : Within bytes) :
    Within (b :: bytes) := by
  intro depth ended
  have stays : (Spot.inside depth).step b = .inside depth := by simp [Spot.step, notQuote, notBackslash]
  rw [after_cons, step_of_not_takes rfl, stays, found_of_ended]
  exact h depth ended

theorem Within.escape (b : UInt8) (h : Within bytes) : Within (backslash :: b :: bytes) := by
  intro depth ended
  rw [after_cons, after_cons, step_of_not_takes rfl, step_of_not_takes rfl, found_of_ended, found_of_ended]
  exact h depth ended

theorem within_of_forall (h : ∀ b ∈ bytes, b ≠ quote ∧ b ≠ backslash) : Within bytes := by
  induction bytes with
  | nil => exact within_nil
  | cons b bytes ih =>
    obtain ⟨first, others⟩ := List.forall_mem_cons.mp h
    exact (ih others).cons first.1 first.2

/-- A character that stands for itself is passed over in a string: none of its bytes is a quotation mark or a
backslash, even if it has several. -/
theorem within_encodeChar {c : Char} (notQuote : c ≠ '\x22') (notBackslash : c ≠ '\\') :
    Within (Utf8.encodeChar c) := by
  obtain ⟨b, more, shape, -, continuation, kind⟩ := Utf8.encodeCode_shape c.toNat c.valid
  have large : ∀ {b : UInt8}, 0x80 ≤ b.toNat → b ≠ quote ∧ b ≠ backslash := by
    intro b hb
    constructor <;>
      · rintro rfl
        exact absurd hb (by decide)
  rw [Utf8.encodeChar, shape]
  refine within_of_forall (List.forall_mem_cons.mpr ⟨?_, fun d hd => large (continuation d hd).1⟩)
  rcases kind with ⟨-, same, -⟩ | ⟨-, hb⟩
  · -- A character of one byte is the byte's.
    constructor
    · rintro rfl
      exact notQuote (Char.toNat_inj.mp same.symm)
    · rintro rfl
      exact notBackslash (Char.toNat_inj.mp same.symm)
  · exact large hb

theorem within_codeUnit {code : Nat} (h : CodeUnit bytes code) : Within bytes := by
  have digit : ∀ {b : UInt8} {n : Nat}, hexValue? b = some n → b ≠ quote ∧ b ≠ backslash := by
    intro b n hb
    constructor <;>
      · rintro rfl
        cases hb
  obtain ⟨ha, hb, hc, hd⟩ := h
  refine within_of_forall ?_
  simp only [List.forall_mem_cons]
  exact ⟨digit ha, digit hb, digit hc, digit hd, nofun⟩

theorem within_characters {cs : List Char} (h : Characters bytes cs) : Within bytes := by
  induction h with
  | nil => exact within_nil
  | cons character _ ih =>
    refine Within.append ?_ ih
    cases character with
    | plain _ notQuote notBackslash => exact within_encodeChar notQuote notBackslash
    | letter => exact within_nil.escape _
    | unit hu _ => exact (within_codeUnit hu).escape _
    | pair hh _ hl _ => exact ((within_codeUnit hh).append ((within_codeUnit hl).escape _)).escape _

/-- **There is no literal in a string**, whatever its digits are. The opening quotation mark leads into it, nothing in
it leads out, and the closing one does. -/
theorem quiet_quoted {s : String} (h : Quoted bytes s) : Quiet bytes := by
  obtain ⟨characters⟩ := h
  intro depth ended
  have opens : (Spot.outside depth).step quote = .inside depth := rfl
  have closes : (Spot.inside depth).step quote = .outside depth := rfl
  rw [after_cons, step_of_ends rfl, opens, after_append, found_of_ended, within_characters characters, after_cons,
    step_of_ends rfl, closes, found_of_ended, after_nil]

theorem quiet_lead {name : String} (h : Lead bytes name) : Quiet bytes := by
  obtain ⟨quoted, before, after⟩ := h
  have colon : Quiet [Ascii.colon] := quiet_of_forall (by decide +kernel)
  exact (quiet_quoted quoted).append ((quiet_blank before).append (colon.append (quiet_blank after)))

/-! ## Values and what is behind them -/

/-- Outside strings, where no literal goes on, the stretch holds these literals, the last of which may go on behind it.
It leaves as many arrays and objects open as there were. -/
def Holds (bytes : Bytes) (literals : List Bytes) : Prop :=
  ∀ depth ended, (after ⟨.outside depth, ended, []⟩ bytes).spot = .outside depth ∧
    (after ⟨.outside depth, ended, []⟩ bytes).found = ended ++ literals

/-- The stretch ends a literal that might go on, holds these literals, and closes an array or an object. -/
def Closes (bytes : Bytes) (literals : List Bytes) : Prop :=
  ∀ scan depth, scan.spot = .outside (depth + 1) →
    after scan bytes = ⟨.outside depth, scan.found ++ literals, []⟩

theorem Quiet.holds (h : Quiet bytes) : Holds bytes [] := by
  intro depth ended
  rw [h, found_of_ended, List.append_nil]
  exact ⟨rfl, rfl⟩

/-- White space changes nothing about the literals in front of it. -/
theorem found_after_blank (h : Blank gap) (outside : scan.spot = .outside depth) :
    (scan.after gap).found = scan.found := by
  cases gap with
  | nil => rfl
  | cons b gap =>
    obtain ⟨first, others⟩ := List.forall_mem_cons.mp h
    have ends : continuesNumeral b = false := by
      rcases first with rfl | rfl | rfl | rfl <;> decide
    have stays : (Spot.outside depth).step b = .outside depth := Spot.step_of_isBlank (isBlank_iff.mpr first)
    rw [after_cons, step_of_ends ends, outside, stays, quiet_blank others, found_of_ended]

/-- Behind white space, or behind none, a byte ends the literal in front. -/
theorem after_gap_cons (h : Blank gap) (ends : continuesNumeral b = false) (outside : scan.spot = .outside depth) :
    scan.after (gap ++ b :: bytes) = after ⟨scan.spot.step b, scan.found, []⟩ bytes := by
  rw [after_append, after_cons, step_of_ends ends, found_after_blank h outside, spot_after, outside,
    Spot.after_of_blank h]

theorem starts_numeral {n : Number} (h : Numeral bytes n) : ∃ b more, bytes = b :: more ∧ startsNumeral b = true := by
  have digit : ∀ d : Digit, startsNumeral d.toByte = true := by decide
  cases h with
  | positive hi =>
    cases hi with
    | zero => exact ⟨_, _, rfl, digit 0⟩
    | digits => exact ⟨_, _, rfl, digit _⟩
  | negative => exact ⟨_, _, rfl, rfl⟩

/-- **A numeral is found whole.** Its first byte begins a literal and all others go on one. It is still open at the
end, and it is for what follows to end it. -/
theorem holds_numeral {n : Number} (h : Numeral bytes n) : Holds bytes [bytes] := by
  intro depth ended
  have all : ∀ b ∈ bytes, continuesNumeral b = true := forall_mem_numeral (by decide) (by decide) h
  obtain ⟨b, more, rfl, starts⟩ := starts_numeral h
  have first : step ⟨.outside depth, ended, []⟩ b = ⟨.outside depth, ended, [b]⟩ := by
    have taken : takes ⟨.outside depth, ended, []⟩ b = true := starts
    rw [step, taken, if_pos rfl, step_outside_of_continues (continuesNumeral_of_starts starts), List.nil_append]
  obtain ⟨-, others⟩ := List.forall_mem_cons.mp all
  rw [after_cons, first, after_of_continues others (List.cons_ne_nil b [])]
  exact ⟨rfl, rfl⟩

section

variable {opening closing : UInt8} (pair : (opening, closing) ∈ brackets)

include pair

theorem continuesNumeral_brackets : continuesNumeral opening = false ∧ continuesNumeral closing = false := by
  simp only [brackets, List.mem_cons, Prod.mk.injEq, List.not_mem_nil, or_false] at pair
  rcases pair with ⟨rfl, rfl⟩ | ⟨rfl, rfl⟩ <;> decide

/-- A closing bracket ends the literal that might go on, and closes an array or object without one more. -/
theorem closes_bracket (h : Blank gap) : Closes (gap ++ [closing]) [] := by
  intro scan depth outside
  obtain ⟨-, ends⟩ := continuesNumeral_brackets pair
  rw [after_gap_cons h ends outside, outside, (Spot.step_brackets pair depth).2, List.append_nil, after_nil]

/-- **An array or object holds what it has inside.** The literals of the first item or member are found there, and the
others up to the closing bracket, which ends the last one if nothing else has. -/
theorem Closes.enclosed {front : Bytes} (quiet : Quiet front) (h : Holds bytes literals) (h' : Closes more others) :
    Holds (opening :: (front ++ (bytes ++ more))) (literals ++ others) := by
  intro depth ended
  obtain ⟨ends, -⟩ := continuesNumeral_brackets pair
  obtain ⟨spot, found⟩ := h (depth + 1) ended
  rw [after_cons, step_of_ends ends, (Spot.step_brackets pair depth).1, found_of_ended, after_append, quiet,
    after_append, h' _ depth spot, found, found_of_ended, List.append_assoc]
  exact ⟨rfl, rfl⟩

end

/-- **What follows an item or a member begins with a comma**, and the comma ends the literal of the one before it.
Then there are the literals of the next one, and of those behind it. -/
theorem Closes.next {front : Bytes} (blank : Blank gap) (quiet : Quiet front) (h : Holds bytes literals)
    (h' : Closes more others) : Closes (gap ++ comma :: (front ++ (bytes ++ more))) (literals ++ others) := by
  intro scan depth outside
  have stays : (Spot.outside (depth + 1)).step comma = .outside (depth + 1) := rfl
  obtain ⟨spot, found⟩ := h (depth + 1) scan.found
  rw [after_gap_cons blank (by decide) outside, outside, stays, after_append, quiet, after_append,
    h' _ depth spot, found, List.append_assoc]

end Scan
end Relabel
