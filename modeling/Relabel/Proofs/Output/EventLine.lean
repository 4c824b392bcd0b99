import Relabel.Proofs.Output.Stream

/-!
# The line of an event

Whatever the particulars of an event are, its line is one line, and another program reads the event back from it
(`Event.decoded_line`): its kind, and its particulars as they are.

Particulars that have no document leave an error in their place, and with it goes the reason why there is none. **The
reason is not always told as it is.** A place at its end is respelled, and it is left out if its line is zero, because
lines are counted from one. `Reason.Told` says what is told by the place alone, not by how it is looked for. It is
looked for from the end of the text, and found whenever it is there (`Reason.split?_eq_some_iff`), because the words in
front of its numbers do not end in digits.
-/

namespace Relabel

/-! ## Reasons -/

namespace Reason

/-- Digits that stand for a number, one that is told. -/
structure Spells (digits : List Char) (n : Nat) : Prop where
  nonempty : digits ≠ []
  isDigit : ∀ c ∈ digits, c.isDigit = true
  value : Nat.ofDigitChars 10 digits 0 = n
  told : n ≤ greatest

/-- A reason is a text with a place behind it. -/
def EndsInPlace (reason text : String) (line column : Nat) : Prop :=
  ∃ lineDigits columnDigits, Spells lineDigits line ∧ Spells columnDigits column ∧
    reason = text ++ " at line " ++ String.ofList lineDigits ++ " column " ++ String.ofList columnDigits

variable {reason told text word : String} {line column n : Nat} {digits reversed rest : List Char} {c : Char}

theorem foldl_eq_ofDigitChars (digits : List Char) :
    digits.foldl (fun n c => n * 10 + (c.toNat - '0'.toNat)) 0 = Nat.ofDigitChars 10 digits 0 := by
  simp only [Nat.ofDigitChars, Nat.mul_comm 10]

/-- A number at the end of a text stands there in digits. -/
theorem exists_of_numberAtEnd? (h : numberAtEnd? reversed = some (n, rest)) :
    ∃ digits, Spells digits n ∧ reversed = digits.reverse ++ rest := by
  simp only [numberAtEnd?, foldl_eq_ofDigitChars, Option.ite_none_left_eq_some, Bool.or_eq_true, not_or,
    decide_eq_true_eq, List.isEmpty_iff, Option.some.injEq, Prod.mk.injEq] at h
  obtain ⟨⟨nonempty, told⟩, value, rfl⟩ := h
  refine ⟨(reversed.takeWhile Char.isDigit).reverse, ⟨nonempty, fun c there => ?_, value, ?_⟩, ?_⟩
  · exact List.all_eq_true.mp List.all_takeWhile c (List.mem_reverse.mp there)
  · exact value ▸ Nat.le_of_not_lt told
  · rw [List.reverse_reverse, List.takeWhile_append_dropWhile]

/-- Digits at the end of a text are taken as far as they go. -/
theorem numberAtEnd?_append (h : Spells digits n) (rest : List Char) (ends : ∀ c ∈ rest.head?, c.isDigit = false) :
    numberAtEnd? (digits.reverse ++ rest) = some (n, rest) := by
  have all : ∀ d ∈ digits.reverse, d.isDigit = true := fun d hd => h.isDigit d (List.mem_reverse.mp hd)
  have stops : rest.takeWhile Char.isDigit = [] ∧ rest.dropWhile Char.isDigit = rest := by
    cases rest with
    | nil => exact ⟨rfl, rfl⟩
    | cons c rest =>
      have other := Bool.eq_false_iff.mp (ends c rfl)
      exact ⟨List.takeWhile_cons_of_neg other, List.dropWhile_cons_of_neg other⟩
  have nonempty : digits.isEmpty = false := List.isEmpty_eq_false_iff.mpr h.nonempty
  have told : decide (greatest < n) = false := decide_eq_false (Nat.not_lt.mpr h.told)
  simp only [numberAtEnd?, List.takeWhile_append_of_pos all, List.dropWhile_append_of_pos all, stops,
    List.append_nil, List.reverse_reverse, foldl_eq_ofDigitChars, h.value, nonempty, told, Bool.or_false,
    Bool.false_eq_true, ↓reduceIte]

theorem beforeWord?_eq_some_iff :
    beforeWord? word reversed = some rest ↔ reversed = word.toList.reverse ++ rest := by
  simp only [beforeWord?, Option.ite_none_right_eq_some, Option.some.injEq, List.isPrefixOf_iff_prefix]
  constructor
  · rintro ⟨⟨tail, rfl⟩, rfl⟩
    rw [List.drop_left]
  · rintro rfl
    exact ⟨List.prefix_append _ _, List.drop_left⟩

theorem beforeWord?_append (word : String) (rest : List Char) :
    beforeWord? word (word.toList.reverse ++ rest) = some rest := beforeWord?_eq_some_iff.mpr rfl

/-- **A reason is split where its place begins.** The numbers and the words between them are looked for from the end
of the text. A number is taken as far as its digits go, and the words end in a blank in front of it, so that there is
no other way to split the reason. -/
theorem split?_eq_some_iff : split? reason = some (text, line, column) ↔ EndsInPlace reason text line column := by
  constructor
  · intro h
    simp only [split?, Option.bind_eq_bind, Option.bind_eq_some_iff, Option.pure_def, Option.some.injEq,
      Prod.mk.injEq, Prod.exists] at h
    obtain ⟨column', _, atColumn, _, behindColumn, line', _, atLine, front, behindLine, rfl, rfl, rfl⟩ := h
    obtain ⟨columnDigits, spellsColumn, whole⟩ := exists_of_numberAtEnd? atColumn
    obtain ⟨lineDigits, spellsLine, rfl⟩ := exists_of_numberAtEnd? atLine
    rw [beforeWord?_eq_some_iff] at behindColumn behindLine
    subst behindColumn behindLine
    refine ⟨lineDigits, columnDigits, spellsLine, spellsColumn, String.toList_injective ?_⟩
    rw [← List.reverse_inj, whole]
    simp only [String.toList_append, String.toList_ofList, List.reverse_append, List.reverse_reverse,
      List.append_assoc]
  · rintro ⟨lineDigits, columnDigits, spellsLine, spellsColumn, rfl⟩
    have atLine := numberAtEnd?_append spellsLine (" at line ".toList.reverse ++ text.toList.reverse)
      (by rintro _ ⟨⟩; rfl)
    have atColumn := numberAtEnd?_append spellsColumn
      (" column ".toList.reverse ++ (lineDigits.reverse ++ (" at line ".toList.reverse ++ text.toList.reverse)))
      (by rintro _ ⟨⟩; rfl)
    simp only [split?, String.toList_append, String.toList_ofList, List.reverse_append, List.append_assoc, atColumn,
      beforeWord?_append, atLine, Option.bind_eq_bind, Option.bind_some, Option.pure_def, List.reverse_reverse,
      String.ofList_toList]

/-- What is told of a reason: the reason as it is if it does not end in a place. If it does, the place is left out where
its line is zero, and written in the usual spelling elsewhere. -/
inductive Told : String → String → Prop
  | asItIs {reason : String} : (∀ text line column, ¬ EndsInPlace reason text line column) → Told reason reason
  | unplaced {reason text : String} {column : Nat} : EndsInPlace reason text 0 column → Told reason text
  | placed {reason text : String} {line column : Nat} : EndsInPlace reason text line column → line ≠ 0 →
    Told reason (text ++ " at line " ++ toString line ++ " column " ++ toString column)

/-- **One thing is told of a reason.** The cases of `Reason.Told` exclude each other and leave none out, because a
reason ends in one place or in none. -/
theorem told_iff : Told reason told ↔ told = shown reason := by
  constructor
  · intro h
    cases h with
    | asItIs nowhere =>
      have unsplit : split? reason = none :=
        Option.eq_none_iff_forall_ne_some.mpr fun _ found => nowhere _ _ _ (split?_eq_some_iff.mp found)
      rw [shown, unsplit]
    | unplaced ends =>
      rw [shown, split?_eq_some_iff.mpr ends]
      rfl
    | placed ends counted =>
      rw [shown, split?_eq_some_iff.mpr ends]
      exact (if_neg counted).symm
  · rintro rfl
    unfold shown
    split
    · next unsplit => exact .asItIs fun _ _ _ ends => nomatch unsplit.symm.trans (split?_eq_some_iff.mpr ends)
    · next ends =>
      rw [split?_eq_some_iff] at ends
      split
      · next zero => exact .unplaced (zero ▸ ends)
      · next counted => exact .placed ends counted

/-- The text in front of a place is shorter than the reason. -/
theorem EndsInPlace.ne (h : EndsInPlace reason text line column) : text ≠ reason := by
  rintro rfl
  obtain ⟨_, _, -, -, same⟩ := h
  have lengths := congrArg String.length same
  simp only [String.length_append] at lengths
  have word : " at line ".length = 9 := rfl
  omega

/-- A reason is told as it is exactly if no place at its end would be told otherwise: its line is counted from one,
and both numbers are spelled as numbers are, without zeros in front. -/
theorem shown_eq_self_iff :
    shown reason = reason ↔ ∀ text line column, EndsInPlace reason text line column →
      line ≠ 0 ∧ reason = text ++ " at line " ++ toString line ++ " column " ++ toString column := by
  constructor
  · intro same text line column ends
    rw [shown, split?_eq_some_iff.mpr ends] at same
    dsimp only at same
    split at same
    · exact absurd same ends.ne
    · next counted => exact ⟨counted, same.symm⟩
  · intro usual
    have told := told_iff.mpr (rfl : shown reason = shown reason)
    generalize shown reason = text at told ⊢
    cases told with
    | asItIs => rfl
    | unplaced ends => exact absurd rfl (usual _ _ _ ends).1
    | placed ends _ => exact (usual _ _ _ ends).2.symm

end Reason

/-! ## Lines -/

namespace Event

/-- **The line of an event is one line, and the event is read back from it.** If its particulars have a document, the
kind and the document are read, in this order. If they have none, an error is read, with what is told of the reason; and
that is the reason itself, unless it ends in a place that is told otherwise. -/
theorem decoded_line (kind : EventKind) :
    (∀ particulars, NoControl (ofData kind particulars).line) ∧
      (∀ data : Document, data.WellFormed 126 →
        Document.read (ofData kind (.ok data)).line =
          .ok (.object [("type", .string kind.name), ("data", data)])) ∧
      (∀ reason, ∃ told, Reason.Told reason told ∧
        Document.read (ofData kind (.error reason)).line =
          .ok (.object [("type", .string "error"),
            ("data", .object [("message", .string told), ("code", .string "serialization_error")])])) ∧
      (∀ reason, Reason.Told reason reason ↔
        ∀ text line column, Reason.EndsInPlace reason text line column →
          line ≠ 0 ∧ reason = text ++ " at line " ++ toString line ++ " column " ++ toString column) := by
  refine ⟨fun _ => Document.noControl_compact _, fun data fit => ?_, fun reason => ?_, fun reason => ?_⟩
  · exact Document.read_compact (wellFormed_document fit)
  · refine ⟨Reason.shown reason, Reason.told_iff.mpr rfl, ?_⟩
    exact Document.read_compact (wellFormed_document (wellFormed_messageView _ _ _))
  · rw [Reason.told_iff, eq_comm, Reason.shown_eq_self_iff]

/-- Names and texts with line feeds and quotation marks, the mark behind another name, and a reason that only looks as
if it ended in a place. -/
theorem decoded_line_nested :
    let data := Document.object
      [("a\nb", .array [.string "\x22\x01\\😀", .number ⟨true, [0], [5], some ⟨false, [3]⟩⟩, .bool true]),
        (Reader.numberMark, .object [])]
    let reason := "no place:\n at line 7 column "
    data.WellFormed 126 ∧
      Document.read (ofData .output (.ok data)).line = .ok (.object [("type", .string "output"), ("data", data)]) ∧
      Ascii.lineFeed ∉ (ofData .output (.error reason)).line ∧
      Document.read (ofData .output (.error reason)).line =
        .ok (.object [("type", .string "error"),
          ("data", .object [("message", .string reason), ("code", .string "serialization_error")])]) := by
  intro data reason
  have valid : data.WellFormed 126 := by
    refine .object (by decide) (by decide) fun m hm => ?_
    rcases List.mem_pair.mp hm with rfl | rfl
    · refine .array fun item hitem => ?_
      simp only [List.mem_cons, List.not_mem_nil, or_false] at hitem
      rcases hitem with rfl | rfl | rfl
      · exact .string _
      · exact .number rfl
      · exact .bool _
    · exact .object (by decide) (by decide) fun _ h => nomatch h
  obtain ⟨clean, decoded, refused, -⟩ := decoded_line .output
  obtain ⟨told, tells, read⟩ := refused reason
  have same : told = reason := (Reason.told_iff.mp tells).trans (by decide +kernel)
  rw [same] at read
  exact ⟨valid, decoded data valid, (clean _).lineFeed_notMem, read⟩

/-- A place whose line is zero is not told. -/
theorem decoded_line_misplaced :
    ¬ ∀ (kind : EventKind) (reason : String),
      Document.read (ofData kind (.error reason)).line =
        .ok (.object [("type", .string "error"),
          ("data", .object [("message", .string reason), ("code", .string "serialization_error")])]) := by
  intro verbatim
  have read : Document.read (ofData .output (.error "x at line 0 column 5")).line =
      .ok (error "x" "serialization_error").document :=
    Document.read_compact (wellFormed_document (wellFormed_messageView _ _ _))
  rw [verbatim] at read
  simp [error, document, messageView] at read

end Event
end Relabel
