import Relabel.Proofs.Json.Tokens

/-!
# Where a byte of a text stands

What a byte of a text means depends on where it stands: a colon, a bracket or a space inside a string is one more
character of the string. `Spot` is what has to be known of the bytes in front: whether they end inside a string, there
behind a backslash perhaps, and how many arrays and objects are open. It is found by one pass over the bytes, byte by
byte (`Spot.behind`), and it knows nothing of documents, so that properties of a text can be said of its bytes alone.

`Spot.condense` leaves out the white space outside strings. Both go from byte to byte, so of stretches in a row they are
known from the stretches (`Spot.after_append`, `Spot.condense_append`).
-/

namespace Relabel

/-- Whether a byte opens an array or an object, when it stands between tokens. -/
def Ascii.isOpening (b : UInt8) : Bool := b = openBracket || b = openBrace

/-- Whether a byte closes an array or an object, when it stands between tokens. -/
def Ascii.isClosing (b : UInt8) : Bool := b = closeBracket || b = closeBrace

/-- The brackets that belong together. -/
def Ascii.brackets : List (UInt8 × UInt8) := [(openBracket, closeBracket), (openBrace, closeBrace)]

/-- A place in a text, with `depth` arrays and objects open there. -/
inductive Spot where
  | outside (depth : Nat)
  | inside (depth : Nat)
  /-- Inside a string, right behind a backslash. -/
  | escaped (depth : Nat)
  deriving DecidableEq, Repr

namespace Spot

open Ascii Reader Standard

/-- The spot behind a byte. -/
def step : Spot → UInt8 → Spot
  | .outside depth, b =>
    if b = quote then .inside depth
    else if isOpening b then .outside (depth + 1)
    else if isClosing b then .outside (depth - 1)
    else .outside depth
  | .inside depth, b =>
    if b = quote then .outside depth else if b = backslash then .escaped depth else .inside depth
  | .escaped depth, _ => .inside depth

/-- The spot behind some bytes. -/
def after (spot : Spot) (bytes : Bytes) : Spot := bytes.foldl step spot

/-- The spot behind the bytes at the front of a text. -/
def behind (front : Bytes) : Spot := after (.outside 0) front

/-- The bytes without the white space outside strings. -/
def condense : Spot → Bytes → Bytes
  | _, [] => []
  | .outside depth, b :: rest =>
    if isBlank b then condense (.outside depth) rest else b :: condense (step (.outside depth) b) rest
  | spot, b :: rest => b :: condense (spot.step b) rest

variable {spot : Spot} {depth : Nat} {b : UInt8} {bytes more front : Bytes}

@[simp] theorem after_nil : spot.after [] = spot := rfl

@[simp] theorem after_cons : spot.after (b :: bytes) = (spot.step b).after bytes := rfl

@[simp] theorem after_append : spot.after (bytes ++ more) = (spot.after bytes).after more := List.foldl_append

theorem behind_append : behind (front ++ bytes) = (behind front).after bytes := after_append

@[simp] theorem condense_nil : spot.condense [] = [] := by
  cases spot <;> rfl

/-- Of two brackets that belong together, one undoes the other. -/
theorem step_brackets {opening closing : UInt8} (pair : (opening, closing) ∈ brackets) (depth : Nat) :
    (outside depth).step opening = .outside (depth + 1) ∧ (outside (depth + 1)).step closing = .outside depth := by
  simp only [brackets, List.mem_cons, Prod.mk.injEq, List.not_mem_nil, or_false] at pair
  rcases pair with ⟨rfl, rfl⟩ | ⟨rfl, rfl⟩ <;> exact ⟨rfl, rfl⟩

/-- White space outside strings leaves one where one is. -/
theorem step_of_isBlank (h : isBlank b = true) : (outside depth).step b = .outside depth := by
  rcases isBlank_iff.mp h with rfl | rfl | rfl | rfl <;> rfl

theorem condense_of_isBlank (h : isBlank b = true) :
    (outside depth).condense (b :: bytes) = (outside depth).condense bytes := if_pos h

/-- Any other byte is kept, and so is white space inside strings. -/
theorem condense_of_not_isBlank (h : isBlank b = false) :
    spot.condense (b :: bytes) = b :: (spot.step b).condense bytes := by
  cases spot with
  | outside depth => exact if_neg (Bool.eq_false_iff.mp h)
  | _ => rfl

/-- **Condensing goes piece by piece.** What is left of the second piece depends on where the first one leads: a space
is kept there if that is inside a string. -/
theorem condense_append : spot.condense (bytes ++ more) = spot.condense bytes ++ (spot.after bytes).condense more := by
  induction bytes generalizing spot with
  | nil => rw [condense_nil]; rfl
  | cons b bytes ih =>
    rw [List.cons_append, after_cons]
    cases spot with
    | outside depth =>
      -- Here alone a byte may be left out, and then the spot is the same behind it.
      by_cases h : isBlank b = true
      · rw [condense_of_isBlank h, condense_of_isBlank h, ih, step_of_isBlank h]
      · rw [Bool.not_eq_true] at h
        rw [condense_of_not_isBlank h, condense_of_not_isBlank h, ih, List.cons_append]
    | inside | escaped => exact congrArg (b :: ·) ih

/-! ## Stretches of one kind -/

theorem condense_of_visible (h : ∀ b ∈ bytes, isBlank b = false) : spot.condense bytes = bytes := by
  induction bytes generalizing spot with
  | nil => exact condense_nil
  | cons b bytes ih =>
    rw [condense_of_not_isBlank (h b List.mem_cons_self), ih fun c hc => h c (List.mem_cons_of_mem b hc)]

theorem after_of_blank (h : Blank bytes) : (outside depth).after bytes = .outside depth := by
  induction bytes with
  | nil => rfl
  | cons b bytes ih =>
    rw [after_cons, step_of_isBlank (isBlank_iff.mpr (h b List.mem_cons_self))]
    exact ih fun c hc => h c (List.mem_cons_of_mem b hc)

theorem condense_of_blank (h : Blank bytes) : (outside depth).condense bytes = [] := by
  induction bytes with
  | nil => rfl
  | cons b bytes ih =>
    rw [condense_of_isBlank (isBlank_iff.mpr (h b List.mem_cons_self))]
    exact ih fun c hc => h c (List.mem_cons_of_mem b hc)

end Spot
end Relabel
