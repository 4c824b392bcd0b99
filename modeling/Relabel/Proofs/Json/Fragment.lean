import Relabel.Proofs.Json.Callbacks
import Relabel.Proofs.Json.Escape
import Relabel.Proofs.Text.Decoding
import Mathlib.Data.List.Forall2

/-!
# The loop over a fragment writes each character once

The loop holds an offset between its rounds, and copies bytes only when a character beyond ASCII is met. What it has
written is therefore behind what it has gone over, by a stretch of ASCII that it still owes. `Reached` says so: the
characters that are written, the stretch that is owed, and the offset that parts them. One round keeps it
(`Reached.advance`), and so a run does (`Reached.run`). The offsets are those of whole characters all along, so each cut
succeeds (`slice?_encodeChars`), and the last one pays what is owed.

From there on a fragment is written character by character (`write?_eq`), wherever it begins and ends, which makes
fragments in a row one fragment (`mapM_write?`) and a string what `Escape.quoted` says (`quoted?_eq`). The escapes are
read back in two ways: as the units that the loop wrote, for every fragment, and as those found in the bytes alone, for
a fragment without a backslash. With one, bytes that are copied can look like an escape, which is why the
characters that must be escaped part the fragments of a string.
-/

namespace Relabel
namespace Fragment

open Escape Reader

/-! ## Cuts -/

theorem encodeChars_append (front back : List Char) :
    Utf8.encodeChars (front ++ back) = Utf8.encodeChars front ++ Utf8.encodeChars back := List.flatMap_append

/-- An offset is a boundary exactly if a byte is there that does not go on a character, or if it is the end of the
bytes. -/
theorem isBoundary_iff {bytes : Bytes} {offset : Nat} :
    isBoundary bytes offset = true ↔
      (∃ b, bytes[offset]? = some b ∧ ¬ Utf8.IsContinuation b) ∨ offset = bytes.length := by
  have low : (0x80 : UInt8).toNat = 0x80 := rfl
  have high : (0xc0 : UInt8).toNat = 0xc0 := rfl
  unfold isBoundary
  split
  · next b there =>
    have inside := (List.getElem?_eq_some_iff.mp there).1
    simp only [Bool.or_eq_true, decide_eq_true_eq, UInt8.lt_iff_toNat_lt, UInt8.le_iff_toNat_le, there,
      Option.some.injEq, exists_eq_left', Utf8.IsContinuation]
    omega
  · next nothing => simp only [decide_eq_true_eq, nothing, reduceCtorEq, false_and, exists_false, false_or]

/-- **A boundary has whole characters in front of it**, and everything with whole characters in front is one. Only the
first byte of a character does not go on one, so that an offset inside of a character is none. -/
theorem isBoundary_encodeChars_iff {cs : List Char} {offset : Nat} :
    isBoundary (Utf8.encodeChars cs) offset = true ↔
      ∃ front back, front ++ back = cs ∧ offset = (Utf8.encodeChars front).length := by
  rw [isBoundary_iff]
  constructor
  · intro boundary
    induction cs generalizing offset with
    | nil =>
      obtain ⟨b, there, -⟩ | atEnd := boundary
      · exact nomatch there
      · exact ⟨[], [], rfl, atEnd⟩
    | cons c cs ih =>
      obtain ⟨first, more, shape, -, continued, -⟩ := Utf8.encodeCode_shape c.toNat c.valid
      have bytes : Utf8.encodeChars (c :: cs) = first :: (more ++ Utf8.encodeChars cs) :=
        List.flatMap_cons.trans (congrArg (· ++ _) shape)
      cases offset with
      | zero => exact ⟨[], c :: cs, rfl, rfl⟩
      | succ offset =>
        rw [bytes, List.getElem?_cons_succ, List.length_cons, List.length_append] at boundary
        rcases Nat.lt_or_ge offset more.length with inside | outside
        · -- A byte of `more` is there, and no character begins at it.
          obtain ⟨b, there, free⟩ | atEnd := boundary
          · rw [List.getElem?_append_left inside] at there
            exact absurd (continued b (List.mem_of_getElem? there)) free
          · omega
        · rw [List.getElem?_append_right outside] at boundary
          obtain ⟨front, back, rfl, here⟩ := ih (boundary.imp_right (by omega))
          refine ⟨c :: front, back, rfl, ?_⟩
          rw [Utf8.encodeChars, List.flatMap_cons, Utf8.encodeChar, shape, ← Utf8.encodeChars, List.cons_append,
            List.length_cons, List.length_append]
          omega
  · rintro ⟨front, back, rfl, rfl⟩
    rw [encodeChars_append, List.getElem?_append_right (Nat.le_refl _), Nat.sub_self]
    cases back with
    | nil => exact .inr (by rw [Utf8.encodeChars, Utf8.encodeChars, List.flatMap_nil, List.append_nil])
    | cons c back =>
      obtain ⟨first, more, shape, free, -⟩ := Utf8.encodeCode_shape c.toNat c.valid
      refine .inl ⟨first, ?_, free⟩
      rw [Utf8.encodeChars, List.flatMap_cons, Utf8.encodeChar, shape, List.cons_append, List.getElem?_cons_zero]

/-- **Whole characters are cut out.** -/
theorem slice?_encodeChars (front gap back : List Char) :
    slice? (Utf8.encodeChars (front ++ gap ++ back)) (Utf8.encodeChars front).length
      (Utf8.encodeChars (front ++ gap)).length = some (Utf8.encodeChars gap) := by
  have start := isBoundary_encodeChars_iff.mpr ⟨front, gap ++ back, (List.append_assoc ..).symm, rfl⟩
  have stop := isBoundary_encodeChars_iff.mpr ⟨front ++ gap, back, rfl, rfl⟩
  have order : (Utf8.encodeChars front).length ≤ (Utf8.encodeChars (front ++ gap)).length := by
    rw [encodeChars_append, List.length_append]
    exact Nat.le_add_right _ _
  rw [slice?, if_pos (by rw [start, stop, decide_eq_true order]; rfl), encodeChars_append (front ++ gap),
    List.take_left, encodeChars_append, List.drop_left]

/-! ## Spellings -/

/-- The escape of a code unit: a backslash, the letter, and the digits to the base sixteen, filled up to four. -/
def escape (unit : Nat) : Bytes :=
  Ascii.bytes "\\u" ++ ((Nat.toDigits 16 unit).leftpad 4 '0').map Ascii.byte

/-- What stands for a character in a fragment. -/
inductive Spelling : Char → Bytes → Prop
  /-- An ASCII character stands for itself. -/
  | itself {c : Char} : c.toNat < 0x80 → Spelling c [Ascii.byte c]
  /-- Up to U+FFFF there is one escape. -/
  | unit {c : Char} : 0x80 ≤ c.toNat → c.toNat < 0x10000 → Spelling c (escape c.toNat)
  /-- Above, there are the escapes of a surrogate pair. -/
  | pair {c : Char} {high low : Nat} : isHighSurrogate high = true → isLowSurrogate low = true →
      pairCode high low = c.toNat → Spelling c (escape high ++ escape low)

/-- Filling up in front leaves the last digit alone. -/
theorem leftpad_toDigits (width n : Nat) :
    (Nat.toDigits 16 n).leftpad (width + 2) '0' =
      (Nat.toDigits 16 (n / 16)).leftpad (width + 1) '0' ++ [(n % 16).digitChar] := by
  rcases Nat.lt_or_ge n 16 with small | large
  · rw [Nat.toDigits_of_lt_base small, Nat.div_eq_of_lt small, Nat.mod_eq_of_lt small, Nat.toDigits_zero, List.leftpad,
      List.leftpad, List.length_singleton, List.length_singleton, Nat.add_sub_cancel]
    exact congrArg (· ++ [n.digitChar]) List.replicate_succ'
  · rw [Nat.toDigits_of_base_le (by decide) large, List.leftpad, List.leftpad, List.length_append,
      List.length_singleton, List.append_assoc]
    exact congrArg (List.replicate · '0' ++ _) (Nat.add_sub_add_right (width + 1) 1 _)

/-- The digits of a unit are written with zeros in front, up to four of them. -/
theorem unitEscape_eq {unit : Nat} (h : unit < 0x10000) : unitEscape unit = escape unit := by
  have digit : ∀ n < 16, Ascii.hexDigit n = Ascii.byte n.digitChar := by decide
  have each (n : Nat) : Ascii.hexDigit (n % 16) = Ascii.byte (n % 16).digitChar :=
    digit _ (Nat.mod_lt n (Nat.succ_pos 15))
  have top : unit / 16 / 16 / 16 = unit / 4096 % 16 := by omega
  have second : unit / 16 / 16 % 16 = unit / 256 % 16 := by omega
  rw [escape, leftpad_toDigits, leftpad_toDigits, leftpad_toDigits, top, second,
    Nat.toDigits_of_lt_base (Nat.mod_lt _ (Nat.succ_pos 15)), unitEscape, each, each, each, each]
  rfl

/-- The code units of a character are its code, or a surrogate pair for it. -/
theorem codeUnits_cases (c : Char) :
    c.toNat < 0x10000 ∧ codeUnits c = [c.toNat] ∨
      ∃ high low, isHighSurrogate high = true ∧ isLowSurrogate low = true ∧ pairCode high low = c.toNat ∧
        codeUnits c = [high, low] := by
  unfold codeUnits
  split
  · next small => exact .inl ⟨small, rfl⟩
  · next large =>
    have scalar : c.toNat < 0xd800 ∨ 0xdfff < c.toNat ∧ c.toNat < 0x110000 := c.valid
    obtain ⟨high, low, code⟩ := surrogates_of_code (Nat.not_lt.mp large) (by omega)
    exact .inr ⟨_, _, high, low, code, rfl⟩

theorem lt_of_mem_codeUnits {c : Char} {unit : Nat} (h : unit ∈ codeUnits c) : unit < 0x10000 := by
  obtain ⟨small, units⟩ | ⟨high, low, hh, hl, -, units⟩ := codeUnits_cases c
  · rw [units, List.mem_singleton] at h
    exact h ▸ small
  · have hh := isHighSurrogate_iff.mp hh
    have hl := isLowSurrogate_iff.mp hl
    rw [units, List.mem_cons, List.mem_singleton] at h
    omega

/-- A character is spelled in one of three ways: as itself, by the unit of its code, or by two units. -/
theorem spelling_spelled (c : Char) : Spelling c (spelled c) := by
  have escapes : (codeUnits c).flatMap unitEscape = (codeUnits c).flatMap escape :=
    List.flatMap_congr fun unit there => unitEscape_eq (lt_of_mem_codeUnits there)
  unfold spelled
  split
  · next ascii => exact .itself ascii
  · next large =>
    rw [escapes]
    obtain ⟨small, units⟩ | ⟨high, low, hh, hl, code, units⟩ := codeUnits_cases c
    · rw [units, List.flatMap_singleton]
      exact .unit (Nat.not_lt.mp large) small
    · rw [units, List.flatMap_cons, List.flatMap_singleton]
      exact .pair hh hl code

theorem encodeChars_of_ascii {cs : List Char} (h : ∀ c ∈ cs, c.toNat < 0x80) :
    Utf8.encodeChars cs = cs.flatMap spelled := by
  refine List.flatMap_congr fun c there => ?_
  have small := h c there
  rw [spelled, if_pos small, Utf8.encodeChar, Utf8.encodeCode, if_pos small, Ascii.byte]

/-! ## UTF-16 -/

/-- The characters of code units in UTF-16, if each surrogate is one of a pair. -/
def fromUnits? : List Nat → Option (List Char)
  | [] => some []
  | unit :: rest =>
    if isHighSurrogate unit then
      match rest with
      | low :: rest =>
        if isLowSurrogate low then (fromUnits? rest).map (Char.ofNat (pairCode unit low) :: ·) else none
      | [] => none
    else if isLowSurrogate unit then none
    else (fromUnits? rest).map (Char.ofNat unit :: ·)

/-- The code units of a character are read back as that character, whatever units follow. -/
theorem fromUnits?_append (c : Char) (units : List Nat) :
    fromUnits? (codeUnits c ++ units) = (fromUnits? units).map (c :: ·) := by
  obtain ⟨-, shape⟩ | ⟨high, low, hh, hl, code, shape⟩ := codeUnits_cases c
  · obtain ⟨low, high⟩ : isLowSurrogate c.toNat = false ∧ isHighSurrogate c.toNat = false := no_surrogate c.valid
    rw [shape, List.singleton_append, fromUnits?.eq_def]
    simp only [low, high, Bool.false_eq_true, ↓reduceIte, Char.ofNat_toNat]
  · simp only [shape, List.cons_append, List.nil_append, fromUnits?, hh, hl, ↓reduceIte, code, Char.ofNat_toNat]

/-- **Code units are read back**, for all characters there are. -/
theorem fromUnits?_codeUnits (cs : List Char) : fromUnits? (cs.flatMap codeUnits) = some cs := by
  induction cs with
  | nil => rfl
  | cons c cs ih => rw [List.flatMap_cons, fromUnits?_append, ih, Option.map_some]

/-! ## The loop -/

/-- The code unit of an escape. -/
def Piece.unit? : Piece → Option Nat
  | .copied _ => none
  | .escaped unit => some unit

/-- The characters beyond ASCII. -/
def beyond (cs : List Char) : List Char := cs.filter (0x80 ≤ ·.toNat)

variable {front gap : List Char} {now : Cursor}

/-- Some characters have been written, and some of ASCII behind them are owed. -/
structure Reached (front gap : List Char) (now : Cursor) : Prop where
  /-- The offset stands between the two. -/
  start : now.start = (Utf8.encodeChars front).length
  /-- Each character is written once. -/
  bytes : now.written.flatMap Piece.bytes = front.flatMap spelled
  /-- The escapes are those of the characters beyond ASCII. -/
  units : now.written.filterMap Piece.unit? = (beyond front).flatMap codeUnits
  /-- Nothing but ASCII is owed. -/
  ascii : ∀ c ∈ gap, c.toNat < 0x80

/-- The characters that are owed are of ASCII, so that no code units are owed with them. -/
theorem Reached.beyond_eq (h : Reached front gap now) : beyond (front ++ gap) = beyond front := by
  have nothing : beyond gap = [] := List.filter_eq_nil_iff.mpr fun c there => by
    rw [decide_eq_true_eq, Nat.not_le]
    exact h.ascii c there
  rw [beyond, List.filter_append, ← beyond, ← beyond, nothing, List.append_nil]

/-- **One character more**, with the loop invariant: what has been written spells the characters in front of the gap,
and the gap is owed, and all of ASCII. A character of ASCII makes the gap longer. Any other one has the gap cut out
and written, then its own units, and leaves an empty gap behind it. -/
theorem Reached.advance (h : Reached front gap now) (c : Char) (rest : List Char) :
    ∃ next front' gap', front' ++ gap' = front ++ gap ++ [c] ∧ Reached front' gap' next ∧
      advance? (Utf8.encodeChars (front ++ gap ++ c :: rest)) now ((Utf8.encodeChars (front ++ gap)).length, c) =
        some next := by
  unfold advance?
  dsimp only
  split
  · next small =>
    refine ⟨now, front, gap ++ [c], (List.append_assoc ..).symm, ⟨h.start, h.bytes, h.units, ?_⟩, rfl⟩
    exact List.forall_mem_append.mpr ⟨h.ascii, List.forall_mem_singleton.mpr small⟩
  · next large =>
    have here : beyond (front ++ gap ++ [c]) = beyond front ++ [c] := by
      rw [beyond, List.filter_append, ← beyond, h.beyond_eq, List.filter_singleton,
        decide_eq_true (Nat.not_lt.mp large), cond_true]
    refine ⟨⟨(Utf8.encodeChars (front ++ gap)).length + (Utf8.encodeChar c).length,
      now.written ++ .copied (Utf8.encodeChars gap) :: (codeUnits c).map .escaped⟩, front ++ gap ++ [c], [],
      List.append_nil _, ⟨?_, ?_, ?_, nofun⟩, ?_⟩
    · rw [encodeChars_append (front ++ gap), List.length_append]
      simp only [Utf8.encodeChars, List.flatMap_singleton]
    · rw [List.flatMap_append, h.bytes, List.flatMap_cons, List.flatMap_map, Piece.bytes, encodeChars_of_ascii h.ascii,
        List.flatMap_append, List.flatMap_append, List.flatMap_singleton, spelled, if_neg large, List.append_assoc]
      rfl
    · rw [List.filterMap_append, h.units, List.filterMap_cons_none rfl, List.filterMap_map, here, List.flatMap_append,
        List.flatMap_singleton]
      congr 1
      exact List.filterMap_some
    · rw [h.start, slice?_encodeChars]
      rfl

/-- **The loop goes over all characters**, and no cut of it fails. The induction is on the characters that are to
come, with `Reached.advance` for each of them. -/
theorem Reached.run (h : Reached front gap now) (rest : List Char) :
    ∃ last front' gap', front' ++ gap' = front ++ gap ++ rest ∧ Reached front' gap' last ∧
      (indexed (Utf8.encodeChars (front ++ gap)).length rest).foldlM
        (advance? (Utf8.encodeChars (front ++ gap ++ rest))) now = some last := by
  induction rest generalizing front gap now with
  | nil => exact ⟨now, front, gap, (List.append_nil _).symm, h, rfl⟩
  | cons c rest ih =>
    obtain ⟨next, front', gap', whole, reached, advanced⟩ := h.advance c rest
    obtain ⟨last, front'', gap'', whole', reached', ran⟩ := ih reached
    rw [whole] at ran whole'
    refine ⟨last, front'', gap'', by rw [whole', List.append_assoc]; rfl, reached', ?_⟩
    rw [indexed, List.foldlM_cons, advanced, Option.bind_eq_bind, Option.bind_some]
    rw [encodeChars_append (front ++ gap), List.length_append, List.append_assoc (front ++ gap)] at ran
    simpa only [Utf8.encodeChars, List.flatMap_singleton, List.singleton_append] using ran

/-- **A fragment is written, whatever its characters are**, and its pieces spell them. When the loop has ended, the
gap that is left is cut out, too; the pieces with a unit are those of the characters beyond ASCII, in their order. -/
theorem exists_pieces (text : String) :
    ∃ pieces, pieces? text = some pieces ∧ pieces.flatMap Piece.bytes = text.toList.flatMap spelled ∧
      pieces.filterMap Piece.unit? = (beyond text.toList).flatMap codeUnits := by
  have begin : Reached [] [] ⟨0, []⟩ := ⟨rfl, rfl, rfl, nofun⟩
  obtain ⟨last, front, gap, whole, reached, ran⟩ := begin.run text.toList
  have paid := slice?_encodeChars front gap []
  rw [List.append_nil, ← reached.start, whole] at paid
  refine ⟨last.written ++ [.copied (Utf8.encodeChars gap)], ?_, ?_, ?_⟩
  · rw [pieces?, Utf8.encode]
    exact (congrArg (· >>= _) ran).trans (congrArg (· >>= _) paid)
  · rw [List.flatMap_append, reached.bytes, List.flatMap_singleton, Piece.bytes, encodeChars_of_ascii reached.ascii,
      ← List.flatMap_append, whole]
    rfl
  · rw [List.filterMap_append, reached.units, ← reached.beyond_eq, whole]
    exact List.append_nil _

/-- A fragment is written character by character. -/
theorem write?_eq (text : String) : write? text = some (text.toList.flatMap spelled) := by
  obtain ⟨pieces, written, bytes, -⟩ := exists_pieces text
  rw [write?, written, Option.map_some, bytes]

/-- **Fragments in a row are one fragment.** It is written character by character, wherever one fragment ends and the
next one begins, so that a text can be cut between any two characters. -/
theorem mapM_write? (fragments : List String) :
    ∃ written, fragments.mapM write? = some written ∧ write? (String.join fragments) = some written.flatten := by
  refine ⟨fragments.map (·.toList.flatMap spelled), ?_, ?_⟩
  · rw [funext write?_eq]
    exact List.mapM_pure
  · rw [write?_eq, String.toList_join, List.flatMap_assoc, List.flatMap_def]

/-! ## Escapes among bytes -/

/-- The code unit of an escape at the front. -/
def unitAt? : Bytes → Option Nat
  | b :: l :: w :: x :: y :: z :: _ => if b = Ascii.backslash ∧ l = Ascii.byte 'u' then hexUnit? w x y z else none
  | _ => none

/-- The code units of all escapes, wherever they begin. -/
def escapedUnits (bytes : Bytes) : List Nat := bytes.tails.filterMap unitAt?

theorem escapedUnits_cons_of_ne {b : UInt8} (h : b ≠ Ascii.backslash) (rest : Bytes) :
    escapedUnits (b :: rest) = escapedUnits rest := by
  have nothing : unitAt? (b :: rest) = none := by
    unfold unitAt?
    split
    · next shape =>
      injection shape with same
      rw [if_neg fun both => h (same.trans both.1)]
    · rfl
  rw [escapedUnits, List.tails, List.filterMap_cons_none nothing, escapedUnits]

/-- No escape begins inside an escape. -/
theorem escapedUnits_unitEscape {unit : Nat} (h : unit < 0x10000) (rest : Bytes) :
    escapedUnits (unitEscape unit ++ rest) = unit :: escapedUnits rest := by
  have digit : ∀ n < 16, Ascii.hexDigit n ≠ Ascii.backslash := by decide
  have each (n : Nat) : Ascii.hexDigit (n % 16) ≠ Ascii.backslash := digit _ (Nat.mod_lt n (Nat.succ_pos 15))
  have found : unitAt? (unitEscape unit ++ rest) = some unit := by
    simp only [unitEscape, List.cons_append, unitAt?, and_self, ↓reduceIte, hexUnit?_digits h]
  simp only [unitEscape, List.cons_append, List.nil_append] at found ⊢
  rw [escapedUnits, List.tails, List.filterMap_cons_some found, ← escapedUnits, escapedUnits_cons_of_ne (by decide),
    escapedUnits_cons_of_ne (each _), escapedUnits_cons_of_ne (each _), escapedUnits_cons_of_ne (each _),
    escapedUnits_cons_of_ne (each _)]

theorem escapedUnits_units {units : List Nat} (h : ∀ unit ∈ units, unit < 0x10000) (rest : Bytes) :
    escapedUnits (units.flatMap unitEscape ++ rest) = units ++ escapedUnits rest := by
  induction units with
  | nil => rfl
  | cons unit units ih =>
    obtain ⟨first, others⟩ := List.forall_mem_cons.mp h
    rw [List.flatMap_cons, List.append_assoc, escapedUnits_unitEscape first, ih others, List.cons_append]

/-- **Without a backslash among the characters, the escapes are all those of the loop.** -/
theorem escapedUnits_spelled {cs : List Char} (h : '\\' ∉ cs) :
    escapedUnits (cs.flatMap spelled) = (beyond cs).flatMap codeUnits := by
  induction cs with
  | nil => rfl
  | cons c cs ih =>
    obtain ⟨other, others⟩ := not_or.mp (h ∘ List.mem_cons.mpr)
    rw [List.flatMap_cons, spelled, beyond, List.filter_cons]
    split
    · next small =>
      rw [decide_eq_false (Nat.not_le.mpr small), if_neg Bool.false_ne_true, List.singleton_append,
        escapedUnits_cons_of_ne (byte_ne_byte small (by decide) (Ne.symm other)), ih others, beyond]
    · next large =>
      rw [decide_eq_true (Nat.not_lt.mp large), if_pos rfl, escapedUnits_units fun _ => lt_of_mem_codeUnits, ih others,
        List.flatMap_cons, beyond]

/-! ## Strings -/

/-- What parts fragments is ASCII. -/
theorem lt_of_parts {c : Char} (h : parts c = true) : c.toNat < 0x80 := by
  simp only [parts, Bool.or_eq_true, decide_eq_true_eq] at h
  obtain (rfl | rfl) | control := h
  · decide
  · decide
  · omega

/-- What parts fragments is written by its escape in a layout. -/
theorem ascii_of_parts {c : Char} (h : parts c = true) : ascii c = asciiChar c := by
  rw [ascii, if_pos (lt_of_parts h)]

/-- Among the characters that nothing parts, those of ASCII need no escape. -/
theorem asciiChar_of_not_parts {c : Char} (h : parts c = false) : asciiChar c = [Ascii.byte c] := by
  simp only [parts, Bool.or_eq_false_iff, decide_eq_false_iff_not] at h
  obtain ⟨⟨notQuote, notBackslash⟩, visible⟩ := h
  -- A character that has a letter of its own is one of those below U+0020.
  have other {d : Char} (control : d.toNat < 0x20) : c ≠ d := fun same => visible (same ▸ control)
  rw [asciiChar, if_neg notQuote, if_neg notBackslash, if_neg (other (by decide)), if_neg (other (by decide)),
    if_neg (other (by decide)), if_neg (other (by decide)), if_neg (other (by decide)), if_neg visible]

theorem raw_of_parts {c : Char} (h : parts c = true) : raw c = asciiChar c := by
  rw [raw, if_pos (lt_of_parts h)]

theorem raw_of_not_parts {c : Char} (h : parts c = false) : raw c = Utf8.encodeChar c := by
  unfold raw
  split
  · next small => rw [asciiChar_of_not_parts h, Utf8.encodeChar, Utf8.encodeCode, if_pos small, Ascii.byte]
  · rfl

/-- What does not part them is spelled as the loop spells it in a layout. -/
theorem ascii_of_not_parts {c : Char} (h : parts c = false) : ascii c = spelled c := by
  rw [ascii, spelled, asciiChar_of_not_parts h]

/-- Around any formatter, strings are spelled in ASCII. -/
theorem spells_ascii {σ : Type} (inner : Formatter σ) (state : σ) : (Formatter.ascii inner).Spells ascii state where
  begins := Callback.writes_write
  fragment cs plain := by
    have same : cs.flatMap ascii = cs.flatMap spelled :=
      List.flatMap_congr fun c there => ascii_of_not_parts (plain c there)
    intro before
    show (write? (String.ofList cs)).bind _ = _
    rw [write?_eq, String.toList_ofList, same]
    rfl
  escape c parting := ascii_of_parts parting ▸ Callback.writes_write
  ends := Callback.writes_write

/-- Without one around, strings are spelled in UTF-8. -/
theorem spells_plain {σ : Type} (state : σ) : Formatter.plain.Spells raw state where
  begins := Callback.writes_write
  fragment cs plain := by
    have same : cs.flatMap raw = Utf8.encode (String.ofList cs) := by
      rw [Utf8.encode, String.toList_ofList]
      exact List.flatMap_congr fun c there => raw_of_not_parts (plain c there)
    rw [same]
    exact Callback.writes_write
  escape c parting := raw_of_parts parting ▸ Callback.writes_write
  ends := Callback.writes_write

/-- **A string in fragments is the string that a layout has.** -/
theorem quoted?_eq (text : String) : quoted? text = some (quoted ascii text) :=
  ((spells_ascii .plain ()).string text).fresh

/-! ## What is written -/

/-- What the pieces of a fragment are. -/
structure Writes (text : String) (pieces : List Piece) : Prop where
  /-- They spell its characters, each once and in order. -/
  spells : ∃ spellings, List.Forall₂ Spelling text.toList spellings ∧ pieces.flatMap Piece.bytes = spellings.flatten
  /-- Their escapes are its characters beyond ASCII, in UTF-16. -/
  decoded : fromUnits? (pieces.filterMap Piece.unit?) = some (beyond text.toList)
  /-- Those escapes are the ones in the bytes, if no character of the fragment can be taken for the beginning of one. -/
  visible : '\\' ∉ text.toList →
    escapedUnits (pieces.flatMap Piece.bytes) = pieces.filterMap Piece.unit?

/-- **Every fragment is written**: all cuts of the loop are between characters, and its pieces are what the characters
ask for. It does not matter how a text is split into fragments, the bytes are the same. So a string of a layout, which
is written in fragments, has the bytes of its characters. -/
theorem writes_pieces (text : String) :
    (∃ pieces, pieces? text = some pieces ∧ Writes text pieces) ∧
      (∀ fragments, String.join fragments = text →
        ∃ written, fragments.mapM write? = some written ∧ write? text = some written.flatten) ∧
      quoted? text = some (quoted ascii text) := by
  obtain ⟨pieces, written, bytes, units⟩ := exists_pieces text
  refine ⟨⟨pieces, written, ⟨text.toList.map spelled, ?_, ?_⟩, ?_, ?_⟩, ?_, quoted?_eq text⟩
  · exact List.forall₂_map_right_iff.mpr (List.forall₂_same.mpr fun c _ => spelling_spelled c)
  · rw [bytes, List.flatMap_def]
  · rw [units, fromUnits?_codeUnits]
  · intro plain
    rw [bytes, units, escapedUnits_spelled plain]
  · rintro fragments rfl
    exact mapM_write? fragments

/-- A character of two bytes and one of four, whose code takes two units, and a text cut in front of the first of
them. -/
theorem writes_pieces_mixed :
    '\\' ∉ "café 😀".toList ∧ String.join ["caf", "é 😀"] = "café 😀" ∧
      ∃ pieces, pieces? "café 😀" = some pieces ∧
        escapedUnits (pieces.flatMap Piece.bytes) = [0xe9, 0xd83d, 0xde00] ∧
        ∃ written, ["caf", "é 😀"].mapM write? = some written ∧ write? "café 😀" = some written.flatten := by
  have plain : '\\' ∉ "café 😀".toList := by decide
  have joined : String.join ["caf", "é 😀"] = "café 😀" := by decide
  obtain ⟨⟨pieces, written, writes⟩, split, -⟩ := writes_pieces "café 😀"
  have evaluated : pieces = [.copied (Ascii.bytes "caf"), .escaped 0xe9, .copied (Ascii.bytes " "), .escaped 0xd83d,
      .escaped 0xde00, .copied []] := Option.some.inj (written.symm.trans (by decide))
  refine ⟨plain, joined, pieces, written, ?_, split _ joined⟩
  rw [writes.visible plain, evaluated]
  rfl

end Fragment
end Relabel
