import Relabel.Proofs.Json.Conformance
import Relabel.Proofs.Json.Relabel

/-!
# The value of a document

What a document stands for, however it is written: numbers are rational numbers, an object is a function from names
to values, and of several members of one name the last one counts. It is defined on documents as they are written,
so it is there for a text before anything reads it; `value` of what was read is the same function.

Putting members in one after another keeps the values (`valueUnder?_insertAll`), so reading does too, as long as no
object has the mark as its first name (`exists_resolve?`). Relabelling does to the values what it is there for and
nothing else (`value_relabelled`).
-/

namespace Relabel

/-- What a JSON text stands for. -/
inductive Value where
  | null
  | bool (value : Bool)
  | number (value : Rat)
  | string (text : String)
  | array (items : List Value)
  /-- The values under names. -/
  | object (under : String → Option Value)

/-- The number that an exponent stands for. -/
def Exponent.value (e : Exponent) : Int :=
  if e.negative then -(Number.valueOf e.digits : Int) else Number.valueOf e.digits

/-- The number that a literal stands for. -/
def Number.value (n : Number) : Rat :=
  (if n.negative then -1 else 1) * (Number.valueOf (n.integer ++ n.fraction) : Rat) *
    10 ^ (n.exponent.elim 0 Exponent.value - n.fraction.length : Int)

example : Number.value ⟨true, [1, 2], [5], some ⟨false, [0, 3]⟩⟩ = -12500 := by decide +kernel

example : Number.value ⟨false, [1, 2], [5], some ⟨true, [1]⟩⟩ = 5 / 4 := by decide +kernel

namespace Document

mutual

/-- The value of a document. -/
def value : Document → Value
  | .null => .null
  | .bool value => .bool value
  | .number literal => .number literal.value
  | .string text => .string text
  | .array items => .array (values items)
  | .object members => .object (valueUnder? members)

/-- The values of items. -/
def values : List Document → List Value
  | [] => []
  | item :: more => value item :: values more

/-- The value under a name: that of the last member that has it. -/
def valueUnder? : Members → String → Option Value
  | [], _ => none
  | (key, item) :: more, name => (valueUnder? more name).or (if key = name then some (value item) else none)

end

variable {members more before after : Members} {name other source target : String} {v old : Document}

/-! ## Members -/

/-- Of members in a row, the last one with a name counts. -/
theorem valueUnder?_append :
    valueUnder? (before ++ after) name = (valueUnder? after name).or (valueUnder? before name) := by
  induction before with
  | nil => exact (Option.or_none).symm
  | cons m before ih =>
    obtain ⟨key, item⟩ := m
    simp only [List.cons_append, valueUnder?, ih, Option.or_assoc]

theorem valueUnder?_eq_none_iff : valueUnder? members name = none ↔ name ∉ members.names := by
  induction members with
  | nil => exact iff_of_true rfl List.not_mem_nil
  | cons m members ih =>
    obtain ⟨key, item⟩ := m
    rw [Members.names_cons, List.mem_cons, not_or, valueUnder?, Option.or_eq_none_iff, ih, and_comm]
    refine and_congr_left' ?_
    by_cases same : key = name
    · simp only [same, ↓reduceIte, reduceCtorEq, not_true_eq_false]
    · simp only [same, ↓reduceIte, Ne.symm same, not_false_eq_true]

theorem valueUnder?_split (h : name ∉ after.names) :
    valueUnder? (before ++ (name, v) :: after) name = some v.value := by
  simp only [valueUnder?_append, valueUnder?, valueUnder?_eq_none_iff.mpr h, ↓reduceIte, Option.none_or, Option.some_or]

theorem valueUnder?_split_of_ne (h : other ≠ name) :
    valueUnder? (before ++ (name, v) :: after) other = valueUnder? (before ++ after) other := by
  simp only [valueUnder?_append, valueUnder?, if_neg h.symm, Option.or_none]

/-- Putting a member in gives its name the new value, and leaves the values under other names. -/
theorem valueUnder?_insert (distinct : members.names.Nodup) :
    valueUnder? (members.insert name v) other = if name = other then some v.value else valueUnder? members other := by
  by_cases there : name ∈ members.names
  · obtain ⟨before, old, after, rfl, notBefore⟩ := Members.exists_split there
    obtain ⟨-, notAfter, -⟩ := Members.nodup_split_iff.mp distinct
    rw [Members.insert_of_split notBefore]
    split
    · next same =>
      subst same
      exact valueUnder?_split notAfter
    · next differ =>
      rw [valueUnder?_split_of_ne (Ne.symm differ), valueUnder?_split_of_ne (Ne.symm differ)]
  · rw [Members.insert_of_notMem there]
    split
    · next same =>
      subst same
      exact valueUnder?_split List.not_mem_nil
    · next differ => rw [valueUnder?_split_of_ne (Ne.symm differ), List.append_nil]

/-- Members put in one after another count like members that stand one after another. -/
theorem valueUnder?_insertAll (distinct : members.names.Nodup) :
    valueUnder? (Members.insertAll members more) name = valueUnder? (members ++ more) name := by
  induction more generalizing members with
  | nil => rw [List.append_nil]; rfl
  | cons m more ih =>
    obtain ⟨key, item⟩ := m
    rw [Members.insertAll_cons, ih (Members.nodup_insert distinct), valueUnder?_append,
      valueUnder?_insert distinct, valueUnder?_append]
    simp only [valueUnder?, Option.or_assoc]
    split <;> rfl

/-- **The values under names after relabelling**: the new name has the value of the old one, the old one has none, and
every other name has the value it had. It is one equation whether the new name was taken or free, because the place of
a member is of no account to the value of an object. -/
theorem valueUnder?_relabel (distinct : members.names.Nodup) (there : source ∈ members.names)
    (differ : source ≠ target) :
    valueUnder? (members.relabel source target) name =
      if name = target then valueUnder? members source
      else if name = source then none else valueUnder? members name := by
  obtain ⟨before, v, after, rfl, -⟩ := Members.exists_split there
  obtain ⟨-, notAfter, others⟩ := Members.nodup_split_iff.mp distinct
  have gone := Members.notMem_others distinct
  rw [Members.relabel_of_split distinct differ, valueUnder?_split notAfter]
  split
  · next taken =>
    rw [valueUnder?_insert others]
    by_cases isTarget : name = target
    · rw [if_pos isTarget.symm, if_pos isTarget]
    rw [if_neg (Ne.symm isTarget), if_neg isTarget]
    by_cases isSource : name = source
    · rw [if_pos isSource, isSource, valueUnder?_eq_none_iff.mpr gone]
    · rw [if_neg isSource, valueUnder?_split_of_ne isSource]
  · next free =>
    rw [Members.names_append, List.mem_append, not_or] at free
    by_cases isTarget : name = target
    · rw [if_pos isTarget, isTarget, valueUnder?_split free.2]
    rw [if_neg isTarget, valueUnder?_split_of_ne isTarget]
    by_cases isSource : name = source
    · rw [if_pos isSource, isSource, valueUnder?_eq_none_iff.mpr gone]
    · rw [if_neg isSource, valueUnder?_split_of_ne isSource]

/-! ## Reading keeps values -/

theorem names_of_resolveMembers? {raws ms : Members} (h : resolveMembers? raws = some ms) :
    ms.names = raws.names := by
  induction raws generalizing ms with
  | nil =>
    cases h
    rfl
  | cons m raws ih =>
    obtain ⟨key, item⟩ := m
    obtain ⟨d, others, -, hothers, rfl⟩ := resolveMembers?_cons_iff.mp h
    rw [Members.names_cons, Members.names_cons, ih hothers]

/-- No object of a document as it is written has the mark as its first name. -/
inductive Unmarked : Document → Prop
  | null : Unmarked .null
  | bool (value : Bool) : Unmarked (.bool value)
  | number (literal : Number) : Unmarked (.number literal)
  | string (text : String) : Unmarked (.string text)
  | array {items : List Document} : (∀ item ∈ items, Unmarked item) → Unmarked (.array items)
  | object {members : Members} :
    members.names.head? ≠ some Reader.numberMark → (∀ m ∈ members, Unmarked m.2) → Unmarked (.object members)

theorem exists_resolveItems? {items : List Document}
    (h : ∀ item ∈ items, ∃ d, item.resolve? = some d ∧ d.value = item.value) :
    ∃ ds, resolveItems? items = some ds ∧ values ds = values items := by
  induction items with
  | nil => exact ⟨[], rfl, rfl⟩
  | cons item more ih =>
    obtain ⟨d, hd, value⟩ := h item List.mem_cons_self
    obtain ⟨ds, hds, others⟩ := ih fun x hx => h x (List.mem_cons_of_mem item hx)
    refine ⟨d :: ds, resolveItems?_cons_iff.mpr ⟨d, ds, hd, hds, rfl⟩, ?_⟩
    rw [values, values, value, others]

theorem exists_resolveMembers? (h : ∀ m ∈ members, ∃ d, m.2.resolve? = some d ∧ d.value = m.2.value) :
    ∃ ms, resolveMembers? members = some ms ∧ valueUnder? ms = valueUnder? members := by
  induction members with
  | nil => exact ⟨[], rfl, rfl⟩
  | cons m more ih =>
    obtain ⟨key, item⟩ := m
    obtain ⟨d, hd, value⟩ := h _ List.mem_cons_self
    obtain ⟨ms, hms, others⟩ := ih fun x hx => h x (List.mem_cons_of_mem _ hx)
    refine ⟨(key, d) :: ms, resolveMembers?_cons_iff.mpr ⟨d, ms, hd, hms, rfl⟩, funext fun name => ?_⟩
    simp only [valueUnder?, value, others]

/-- **Without the mark in front of an object, a document is read with its value.** The induction is on the document as
it is written. Of several members with one name the reader keeps the last value, and that is the one that counts. -/
theorem exists_resolve? {d : Document} (h : d.Unmarked) :
    ∃ d', d.resolve? = some d' ∧ d'.value = d.value := by
  induction h with
  | null => exact ⟨.null, rfl, rfl⟩
  | bool value => exact ⟨.bool value, rfl, rfl⟩
  | number literal => exact ⟨.number literal, rfl, rfl⟩
  | string text => exact ⟨.string text, rfl, rfl⟩
  | array _ ih =>
    obtain ⟨ds, hds, same⟩ := exists_resolveItems? ih
    refine ⟨.array ds, by rw [resolve?, hds]; rfl, ?_⟩
    rw [value, value, same]
  | object unmarked _ ih =>
    obtain ⟨ms, hms, same⟩ := exists_resolveMembers? ih
    refine ⟨.object (Members.insertAll [] ms), by rw [resolve?, if_neg unmarked, hms]; rfl, ?_⟩
    have inserted : valueUnder? (Members.insertAll [] ms) = valueUnder? ms :=
      funext fun name => valueUnder?_insertAll List.nodup_nil
    rw [value, value, inserted, same]

/-- An object with a name other than the mark is read as an object with that name, if it is read. -/
theorem exists_members_of_resolve? {d : Document} (h : resolve? (.object members) = some d)
    (there : name ∈ members.names) (notMark : name ≠ Reader.numberMark) :
    ∃ ms, d = .object ms ∧ name ∈ Members.names ms := by
  cases members with
  | nil => cases there
  | cons m members =>
    obtain ⟨key, item⟩ := m
    rcases resolve?_object_cons_iff.mp h with ⟨rfl, s, n, -, rfl, -, -⟩ | ⟨-, d', ms, -, hms, rfl⟩
    · rw [Members.names_cons, List.mem_cons] at there
      exact absurd (there.resolve_right List.not_mem_nil) notMark
    · -- A name is there exactly if it has a value, and putting members in keeps the values.
      have distinct : (Members.names [(key, d')]).Nodup := List.nodup_singleton key
      have before : name ∈ Members.names ([(key, d')] ++ ms) := by
        rw [Members.names_append, names_of_resolveMembers? hms]
        exact there
      refine ⟨_, rfl, Decidable.not_not.mp fun gone => ?_⟩
      rw [← valueUnder?_eq_none_iff, valueUnder?_insertAll distinct, valueUnder?_eq_none_iff] at gone
      exact gone before

end Document

/-- The value of an object after the value under one name has been given another name. -/
def Value.relabelled (source target : String) : Value → Value
  | .object under => .object fun name =>
      if name = target then under source else if name = source then none else under name
  | other => other

namespace Document

/-- **Relabelling does to the value what it says.** The value of an object knows nothing of the order of members, and
so it is of no account here whether the new name was taken or free. -/
theorem value_relabelled {depth : Nat} {source target : String} {d d' : Document} (h : d.WellFormed depth)
    (differ : source ≠ target) (hr : d.relabel source target = (true, d')) :
    d'.value = d.value.relabelled source target := by
  obtain ⟨members, rfl, there, rfl⟩ := relabel_true_iff.mp hr
  cases h with
  | object distinct _ _ =>
    rw [value, value, Value.relabelled]
    exact congrArg Value.object (funext fun name => valueUnder?_relabel distinct there differ)

end Document
end Relabel
