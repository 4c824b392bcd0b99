import Relabel.Proofs.Json.Conformance

/-!
# A text is a text of one document

The rules of the standard put texts together; here they are taken apart again. Whatever derivation a text has, it
ends in the same rule and with the same parts, so the document as it is written is determined by the bytes
(`Text.unique`), at whatever depth.

Which rule it is shows in the first byte: each kind of value has its own (`valueKind`), no value starts with white
space, and neither does a name. Where a string or a number ends is known from the reader, which reads each of them
in one way. A number that stands in the middle of a text is cut off in the right place because nothing that could go
on it follows any value (`Number.Stops`).
-/

namespace Relabel
namespace Standard

open Grammar Reader Document

variable {depth depth' : Nat} {bytes bytes' rest rest' : Bytes} {d d' : Document}

/-! ## Tokens -/

/-- A numeral is told from what follows, if that could not go on it. -/
theorem Numeral.unique {n n' : Number} (h : Numeral bytes n) (h' : Numeral bytes' n')
    (stops : Number.Stops rest) (stops' : Number.Stops rest') (same : bytes ++ rest = bytes' ++ rest') :
    n = n' ∧ rest = rest' := by
  have phrase : Phrase 0 (bytes ++ rest) (.value (.number n)) rest := phrase_of_numeral h stops
  have phrase' : Phrase 0 (bytes' ++ rest') (.value (.number n')) rest' := phrase_of_numeral h' stops'
  rw [same] at phrase
  obtain ⟨number, behind⟩ := phrase.unique phrase'
  exact ⟨Document.number.inj number, behind⟩

/-- A string is told from what follows by its closing quotation mark. -/
theorem Quoted.unique {s s' : String} (h : Quoted bytes s) (h' : Quoted bytes' s')
    (same : bytes ++ rest = bytes' ++ rest') : s = s' ∧ rest = rest' := by
  obtain ⟨characters⟩ := h
  obtain ⟨characters'⟩ := h'
  simp only [List.cons_append, List.append_assoc, List.nil_append, List.cons.injEq, true_and] at same
  have text := text_iff.mpr ⟨_, characters, same.symm⟩
  exact text.unique (text_iff.mpr ⟨_, characters', rfl⟩)

/-- A name is told from what follows, up to white space in front of that. -/
theorem Lead.unique {name name' : String} (h : Lead bytes name) (h' : Lead bytes' name')
    (same : bytes ++ rest = bytes' ++ rest') : name = name' ∧ skipBlank rest = skipBlank rest' := by
  obtain ⟨_, _, _, quote, text, colon, behind⟩ := exists_of_lead h rest
  obtain ⟨_, _, _, quote', text', colon', behind'⟩ := exists_of_lead h' rest'
  rw [same, quote'] at quote
  cases quote
  obtain ⟨rfl, rfl⟩ := text.unique text'
  rw [colon] at colon'
  cases colon'
  exact ⟨rfl, behind.symm.trans behind'⟩

/-! ## The first byte -/

/-- What a value's first byte says of it: its kind, and nothing about the sign of a number. -/
def valueKind : Document → Start
  | .null => .null
  | .bool true => .yes
  | .bool false => .no
  | .number _ => .digit
  | .string _ => .string
  | .array _ => .array
  | .object _ => .object

/-- What a byte starts, the sign of a number apart. -/
def byteKind (b : UInt8) : Start :=
  match Start.of b with
  | .minus => .digit
  | start => start

/-- A value has a first byte, and that shows what kind of value it is. -/
theorem exists_first (h : Stretch depth bytes (.value d)) :
    ∃ b tail, bytes = b :: tail ∧ byteKind b = valueKind d ∧ Start.of b ≠ .none := by
  have digit : ∀ d : Digit, Start.of d.toByte = .digit := by decide
  cases h with
  | null | yes | no => exact ⟨_, _, rfl, rfl, by decide⟩
  | emptyArray | array | emptyObject | object => exact ⟨_, _, rfl, rfl, by decide⟩
  | string hs =>
    obtain ⟨_⟩ := hs
    exact ⟨_, _, rfl, rfl, by decide⟩
  | number hn =>
    cases hn with
    | negative => exact ⟨_, _, rfl, rfl, by decide⟩
    | positive hi _ _ =>
      cases hi with
      | zero => exact ⟨_, _, rfl, rfl, by decide⟩
      | @digits d =>
        refine ⟨_, _, rfl, ?_, ?_⟩
        · rw [byteKind, digit]
          rfl
        · rw [digit]
          decide

theorem kind_eq (depth : Nat) (h : Stretch depth bytes (.value d)) (h' : Stretch depth' bytes' (.value d'))
    (same : bytes ++ rest = bytes' ++ rest') : valueKind d = valueKind d' := by
  obtain ⟨b, tail, rfl, kind, -⟩ := exists_first h
  obtain ⟨b', tail', rfl, kind', -⟩ := exists_first h'
  obtain ⟨rfl, -⟩ := List.cons.inj same
  rw [← kind, kind']

theorem skipBlank_value (h : Stretch depth bytes (.value d)) (rest : Bytes) :
    skipBlank (bytes ++ rest) = bytes ++ rest := by
  obtain ⟨b, tail, rfl, -, starts⟩ := exists_first h
  have notBlank : isBlank b = false := by
    rw [Bool.eq_false_iff]
    intro blank
    rcases isBlank_iff.mp blank with rfl | rfl | rfl | rfl <;> exact starts rfl
  rw [List.cons_append, skipBlank, List.dropWhile_cons, notBlank]
  rfl

/-- A byte that starts no value is not the first one of any. -/
theorem value_ne {b : UInt8} {tail : Bytes} (h : Stretch depth bytes (.value d)) (starts : Start.of b = .none) :
    b :: tail ≠ bytes ++ rest := by
  obtain ⟨c, _, rfl, -, startsNot⟩ := exists_first h
  intro same
  obtain ⟨rfl, -⟩ := List.cons.inj same
  exact startsNot starts

/-! ## Values -/

/-- Whatever else the bytes are read as is the same, and ends in the same place. -/
def Unique (bytes : Bytes) : Meaning → Prop
  | .value d => ∀ {depth' bytes' d' rest rest'}, Stretch depth' bytes' (.value d') → Number.Stops rest →
      Number.Stops rest' → bytes ++ rest = bytes' ++ rest' → d = d' ∧ rest = rest'
  | .moreItems ds => ∀ {depth' bytes' ds' rest rest'}, Stretch depth' bytes' (.moreItems ds') →
      bytes ++ rest = bytes' ++ rest' → ds = ds' ∧ rest = rest'
  | .moreMembers ms => ∀ {depth' bytes' ms' rest rest'}, Stretch depth' bytes' (.moreMembers ms') →
      bytes ++ rest = bytes' ++ rest' → ms = ms' ∧ rest = rest'

/-- What stands behind white space is the same if it starts with none. -/
theorem behind_eq {gap gap' : Bytes} (blank : Blank gap) (blank' : Blank gap')
    (starts : skipBlank bytes = bytes) (starts' : skipBlank bytes' = bytes')
    (same : gap ++ bytes = gap' ++ bytes') : bytes = bytes' := by
  have skipped := congrArg skipBlank same
  rwa [skipBlank_append blank, skipBlank_append blank', starts, starts'] at skipped

theorem skipBlank_cons {b : UInt8} (notBlank : isBlank b = false) (tail : Bytes) :
    skipBlank (b :: tail) = b :: tail := skipBlank_gap blank_nil tail notBlank

theorem skipBlank_lead {name : String} (h : Lead bytes name) (rest : Bytes) :
    skipBlank (bytes ++ rest) = bytes ++ rest := by
  obtain ⟨⟨_⟩, _, _⟩ := h
  exact skipBlank_cons rfl _

/-- The value behind a name and a colon starts where the name says. -/
theorem Lead.unique_value {name name' : String} {first first' : Bytes} (h : Lead bytes name)
    (h' : Lead bytes' name') (hf : Stretch depth first (.value d)) (hf' : Stretch depth' first' (.value d'))
    (same : bytes ++ (first ++ rest) = bytes' ++ (first' ++ rest')) :
    name = name' ∧ first ++ rest = first' ++ rest' := by
  obtain ⟨rfl, behind⟩ := h.unique h' same
  rw [skipBlank_value hf, skipBlank_value hf'] at behind
  exact ⟨rfl, behind⟩

/-- **A stretch of a text is one of one value**, items or members. The induction is on one of two derivations;
the first byte of a value, or the first byte behind white space, decides which rule the other one ends in. -/
theorem unique_of_stretch {p : Meaning} (h : Stretch depth bytes p) : Unique bytes p := by
  induction h with
  | null =>
    intro _ _ _ rest rest' h' _ _ same
    have kind := kind_eq 0 .null h' same
    cases h' with
    | null => exact ⟨rfl, List.append_cancel_left same⟩
    | _ => cases kind
  | yes =>
    intro _ _ _ rest rest' h' _ _ same
    have kind := kind_eq 0 .yes h' same
    cases h' with
    | yes => exact ⟨rfl, List.append_cancel_left same⟩
    | _ => cases kind
  | no =>
    intro _ _ _ rest rest' h' _ _ same
    have kind := kind_eq 0 .no h' same
    cases h' with
    | no => exact ⟨rfl, List.append_cancel_left same⟩
    | _ => cases kind
  | number hn =>
    intro _ _ _ rest rest' h' stops stops' same
    have kind := kind_eq 0 (.number hn) h' same
    cases h' with
    | number hn' =>
      obtain ⟨rfl, behind⟩ := hn.unique hn' stops stops' same
      exact ⟨rfl, behind⟩
    | _ => cases kind
  | string hs =>
    intro _ _ _ rest rest' h' _ _ same
    have kind := kind_eq 0 (.string hs) h' same
    cases h' with
    | string hs' =>
      obtain ⟨rfl, behind⟩ := hs.unique hs' same
      exact ⟨rfl, behind⟩
    | _ => cases kind
  | emptyArray blank =>
    intro _ _ _ rest rest' h' _ _ same
    have kind := kind_eq 1 (.emptyArray blank) h' same
    cases h' with
    | emptyArray blank' =>
      simp only [List.cons_append, List.append_assoc, List.cons.injEq, true_and, List.nil_append] at same
      have behind := behind_eq blank blank' (skipBlank_cons rfl rest) (skipBlank_cons rfl rest') same
      exact ⟨rfl, List.tail_eq_of_cons_eq behind⟩
    | array blank' hitem' _ =>
      simp only [List.cons_append, List.append_assoc, List.cons.injEq, true_and, List.nil_append] at same
      have behind := behind_eq blank blank' (skipBlank_cons rfl rest) (skipBlank_value hitem' _) same
      exact absurd behind (value_ne hitem' rfl)
    | _ => cases kind
  | array blank hitem hmore item more =>
    intro _ _ _ rest rest' h' _ _ same
    have kind := kind_eq _ (.array blank hitem hmore) h' same
    cases h' with
    | emptyArray blank' =>
      simp only [List.cons_append, List.append_assoc, List.cons.injEq, true_and, List.nil_append] at same
      have behind := behind_eq blank blank' (skipBlank_value hitem _) (skipBlank_cons rfl rest') same
      exact absurd behind.symm (value_ne hitem rfl)
    | array blank' hitem' hmore' =>
      simp only [List.cons_append, List.append_assoc, List.cons.injEq, true_and] at same
      have behind := behind_eq blank blank' (skipBlank_value hitem _) (skipBlank_value hitem' _) same
      obtain ⟨rfl, others⟩ :=
        item hitem' (stops_of_moreItems hmore rest) (stops_of_moreItems hmore' rest') behind
      obtain ⟨rfl, ends⟩ := more hmore' others
      exact ⟨rfl, ends⟩
    | _ => cases kind
  | emptyObject blank =>
    intro _ _ _ rest rest' h' _ _ same
    have kind := kind_eq 1 (.emptyObject blank) h' same
    cases h' with
    | emptyObject blank' =>
      simp only [List.cons_append, List.append_assoc, List.cons.injEq, true_and, List.nil_append] at same
      have behind := behind_eq blank blank' (skipBlank_cons rfl rest) (skipBlank_cons rfl rest') same
      exact ⟨rfl, List.tail_eq_of_cons_eq behind⟩
    | object blank' hlead' _ _ =>
      simp only [List.cons_append, List.append_assoc, List.cons.injEq, true_and, List.nil_append] at same
      have behind := behind_eq blank blank' (skipBlank_cons rfl rest) (skipBlank_lead hlead' _) same
      obtain ⟨⟨_⟩, _, _⟩ := hlead'
      cases behind
    | _ => cases kind
  | object blank hlead hitem hmore item more =>
    intro _ _ _ rest rest' h' _ _ same
    have kind := kind_eq _ (.object blank hlead hitem hmore) h' same
    cases h' with
    | emptyObject blank' =>
      simp only [List.cons_append, List.append_assoc, List.cons.injEq, true_and, List.nil_append] at same
      have behind := behind_eq blank blank' (skipBlank_lead hlead _) (skipBlank_cons rfl rest') same
      obtain ⟨⟨_⟩, _, _⟩ := hlead
      cases behind
    | object blank' hlead' hitem' hmore' =>
      simp only [List.cons_append, List.append_assoc, List.cons.injEq, true_and] at same
      have named := behind_eq blank blank' (skipBlank_lead hlead _) (skipBlank_lead hlead' _) same
      obtain ⟨rfl, behind⟩ := hlead.unique_value hlead' hitem hitem' named
      obtain ⟨rfl, others⟩ :=
        item hitem' (stops_of_moreMembers hmore rest) (stops_of_moreMembers hmore' rest') behind
      obtain ⟨rfl, ends⟩ := more hmore' others
      exact ⟨rfl, ends⟩
    | _ => cases kind
  | itemsEnd blank =>
    intro _ _ _ rest rest' h' same
    cases h' with
    | itemsEnd blank' =>
      simp only [List.append_assoc, List.cons_append, List.nil_append] at same
      have behind := behind_eq blank blank' (skipBlank_cons rfl rest) (skipBlank_cons rfl rest') same
      exact ⟨rfl, List.tail_eq_of_cons_eq behind⟩
    | nextItem blank' _ _ _ =>
      simp only [List.append_assoc, List.cons_append, List.nil_append] at same
      cases behind_eq blank blank' (skipBlank_cons rfl _) (skipBlank_cons rfl _) same
  | nextItem blank blankAfter hitem hmore item more =>
    intro _ _ _ rest rest' h' same
    cases h' with
    | itemsEnd blank' =>
      simp only [List.append_assoc, List.cons_append, List.nil_append] at same
      cases behind_eq blank blank' (skipBlank_cons rfl _) (skipBlank_cons rfl _) same
    | nextItem blank' blankAfter' hitem' hmore' =>
      simp only [List.append_assoc, List.cons_append] at same
      have comma := behind_eq blank blank' (skipBlank_cons rfl _) (skipBlank_cons rfl _) same
      have behind := behind_eq blankAfter blankAfter' (skipBlank_value hitem _) (skipBlank_value hitem' _)
        (List.tail_eq_of_cons_eq comma)
      obtain ⟨rfl, others⟩ :=
        item hitem' (stops_of_moreItems hmore rest) (stops_of_moreItems hmore' rest') behind
      obtain ⟨rfl, ends⟩ := more hmore' others
      exact ⟨rfl, ends⟩
  | membersEnd blank =>
    intro _ _ _ rest rest' h' same
    cases h' with
    | membersEnd blank' =>
      simp only [List.append_assoc, List.cons_append, List.nil_append] at same
      have behind := behind_eq blank blank' (skipBlank_cons rfl rest) (skipBlank_cons rfl rest') same
      exact ⟨rfl, List.tail_eq_of_cons_eq behind⟩
    | nextMember blank' _ _ _ _ =>
      simp only [List.append_assoc, List.cons_append, List.nil_append] at same
      cases behind_eq blank blank' (skipBlank_cons rfl _) (skipBlank_cons rfl _) same
  | nextMember blank blankAfter hlead hitem hmore item more =>
    intro _ _ _ rest rest' h' same
    cases h' with
    | membersEnd blank' =>
      simp only [List.append_assoc, List.cons_append, List.nil_append] at same
      cases behind_eq blank blank' (skipBlank_cons rfl _) (skipBlank_cons rfl _) same
    | nextMember blank' blankAfter' hlead' hitem' hmore' =>
      simp only [List.append_assoc, List.cons_append] at same
      have comma := behind_eq blank blank' (skipBlank_cons rfl _) (skipBlank_cons rfl _) same
      have named := behind_eq blankAfter blankAfter' (skipBlank_lead hlead _) (skipBlank_lead hlead' _)
        (List.tail_eq_of_cons_eq comma)
      obtain ⟨rfl, behind⟩ := hlead.unique_value hlead' hitem hitem' named
      obtain ⟨rfl, others⟩ :=
        item hitem' (stops_of_moreMembers hmore rest) (stops_of_moreMembers hmore' rest') behind
      obtain ⟨rfl, ends⟩ := more hmore' others
      exact ⟨rfl, ends⟩

/-- **A text is a text of one document.** The gap in front ends where the value begins, and the value is a stretch,
which is one of one value only (`unique_of_stretch`). -/
theorem Text.unique (h : Text depth bytes d) (h' : Text depth' bytes d') : d = d' := by
  cases h with
  | @mk before body after _ front stretch behind =>
    generalize whole : before ++ (body ++ after) = text at h'
    cases h' with
    | mk front' stretch' behind' =>
      have same := behind_eq front front' (skipBlank_value stretch _) (skipBlank_value stretch' _) whole
      have stops := stops_of_blank behind Number.stops_nil
      have stops' := stops_of_blank behind' Number.stops_nil
      rw [List.append_nil] at stops stops'
      exact (unique_of_stretch stretch stretch' stops stops' same).1

end Standard

namespace Document

/-- **A text is read as what its document resolves to**, and not at all if that resolves to nothing. The text may be
one of a single document (`Text.unique`), so that it is no matter which of its derivations the reader has found. -/
theorem read_text_iff {text : Bytes} {raw d : Document} (h : Standard.Text depthLimit text raw) :
    read text = .ok d ↔ raw.resolve? = some d := by
  rw [read_ok_iff_text]
  constructor
  · rintro ⟨raw', h', hraw⟩
    rw [h.unique h']
    exact hraw
  · intro hraw
    exact ⟨raw, h, hraw⟩

end Document
end Relabel
