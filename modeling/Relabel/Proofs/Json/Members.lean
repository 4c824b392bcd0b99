import Mathlib.Data.List.Nodup
import Relabel.Json.Document

/-!
# Members as an ordered map

`Members.insert` has two shapes, and these lemmas say them without its recursion: a name that is not there
goes to the end (`insert_of_notMem`), and a name that is there has its value replaced where it stands
(`insert_of_split`, with `exists_split` to bring members into that form). What is known of `insert` beyond
that is what becomes of the names (`names_insert`) and where the members come from (`mem_insert`).

`Members.insertAll` puts in one member after another, as a reader does. It keeps names distinct and keeps the
first name first; members whose names are new and distinct are just appended, which is why a document that
was read comes out of its own layout in the same order.
-/

namespace Relabel
namespace Members

/-- Members put in one after another. -/
def insertAll (members more : Members) : Members := more.foldl (fun ms m => ms.insert m.1 m.2) members

variable {members more before after : Members} {name : String} {value old : Document}

/-! ## Names -/

@[simp] theorem names_nil : names [] = [] := rfl

@[simp] theorem names_cons (m : String × Document) : names (m :: members) = m.1 :: names members := rfl

@[simp] theorem names_append : names (before ++ after) = names before ++ names after :=
  List.map_append

/-- A member has the name exactly if the name is among the names. -/
theorem contains_iff : members.contains name = true ↔ name ∈ members.names := by
  simp only [contains, List.any_eq_true, beq_iff_eq, names, List.mem_map]

theorem contains_eq_false_iff : members.contains name = false ↔ name ∉ members.names := by
  rw [← contains_iff, Bool.not_eq_true]

/-- A name that is there has a first place. -/
theorem exists_split (h : name ∈ members.names) :
    ∃ (before : Members) (old : Document) (after : Members),
      members = before ++ (name, old) :: after ∧ name ∉ before.names := by
  induction members with
  | nil => cases h
  | cons m rest ih =>
    obtain ⟨key, value⟩ := m
    by_cases hk : key = name
    · exact ⟨[], value, rest, by rw [hk]; rfl, List.not_mem_nil⟩
    · rw [names_cons, List.mem_cons] at h
      obtain ⟨before, old, after, rfl, notBefore⟩ := ih (h.resolve_left (Ne.symm hk))
      refine ⟨(key, value) :: before, old, after, rfl, ?_⟩
      rw [names_cons, List.mem_cons, not_or]
      exact ⟨Ne.symm hk, notBefore⟩

/-- Names are distinct exactly if one of them is none of the others and those are distinct. -/
theorem nodup_split_iff :
    (before ++ (name, value) :: after).names.Nodup ↔
      name ∉ before.names ∧ name ∉ after.names ∧ (before ++ after).names.Nodup := by
  rw [names_append, names_cons, List.perm_middle.nodup_iff, List.nodup_cons, List.mem_append, not_or,
    names_append, and_assoc]

/-- Of distinct names, none of the others is the one. -/
theorem notMem_others (h : (before ++ (name, value) :: after).names.Nodup) : name ∉ (before ++ after).names := by
  obtain ⟨notBefore, notAfter, -⟩ := nodup_split_iff.mp h
  rw [names_append, List.mem_append, not_or]
  exact ⟨notBefore, notAfter⟩

/-- Another name is a member's name if it is one of the others'. -/
theorem contains_others_iff {other : String} (differ : name ≠ other) :
    contains (before ++ (name, value) :: after) other = true ↔ other ∈ (before ++ after).names := by
  rw [contains_iff]
  simp only [names_append, names_cons, List.mem_append, List.mem_cons, differ.symm, false_or]

/-! ## Looking up -/

theorem get?_eq_none_iff : members.get? name = none ↔ name ∉ members.names := by
  simp only [get?, Option.map_eq_none_iff, List.find?_eq_none, beq_iff_eq, names, List.mem_map, not_exists, not_and]

/-- **Of members with distinct names, the value under a name is that of the one member that has it.** Without distinct
names the value would be that of the first one. -/
theorem get?_eq_some_iff (distinct : members.names.Nodup) :
    members.get? name = some value ↔ (name, value) ∈ members := by
  have named {m : String × Document} (found : members.find? (·.1 == name) = some m) : m.1 = name := by
    simpa only [beq_iff_eq] using List.find?_some found
  simp only [get?, Option.map_eq_some_iff]
  constructor
  · rintro ⟨m, found, rfl⟩
    exact named found ▸ List.mem_of_find?_eq_some found
  · intro there
    have search : (members.find? (·.1 == name)).isSome = true :=
      List.find?_isSome.mpr ⟨_, there, beq_self_eq_true name⟩
    obtain ⟨m, found⟩ := Option.isSome_iff_exists.mp search
    obtain rfl : m = (name, value) :=
      List.inj_on_of_nodup_map distinct (List.mem_of_find?_eq_some found) there (named found)
    exact ⟨_, found, rfl⟩

/-! ## Putting in one member -/

/-- A new name goes to the end. -/
theorem insert_of_notMem (h : name ∉ members.names) :
    members.insert name value = members ++ [(name, value)] := by
  induction members with
  | nil => rfl
  | cons m rest ih =>
    obtain ⟨key, v⟩ := m
    rw [names_cons, List.mem_cons, not_or] at h
    simp only [insert, if_neg (Ne.symm h.1), ih h.2, List.cons_append]

/-- **A name that is there keeps its place and gets the new value.** So does the first of several members with the
name, and the others stay. -/
theorem insert_of_split (h : name ∉ before.names) :
    insert (before ++ (name, old) :: after) name value = before ++ (name, value) :: after := by
  induction before with
  | nil => simp only [List.nil_append, insert, ↓reduceIte]
  | cons m rest ih =>
    obtain ⟨key, v⟩ := m
    rw [names_cons, List.mem_cons, not_or] at h
    simp only [List.cons_append, insert, if_neg (Ne.symm h.1), ih h.2]

/-- The names afterwards: the same ones in the same order, with the name at the end if it is new. -/
theorem names_insert :
    (members.insert name value).names =
      if name ∈ members.names then members.names else members.names ++ [name] := by
  split
  · next h =>
    obtain ⟨before, old, after, rfl, notBefore⟩ := exists_split h
    rw [insert_of_split notBefore]
    simp only [names_append, names_cons]
  · next h =>
    rw [insert_of_notMem h]
    simp only [names_append, names_cons, names_nil]

/-- The members afterwards are members from before and the new one. -/
theorem mem_insert {m : String × Document} (h : m ∈ members.insert name value) :
    m ∈ members ∨ m = (name, value) := by
  by_cases hn : name ∈ members.names
  · obtain ⟨before, old, after, rfl, notBefore⟩ := exists_split hn
    rw [insert_of_split notBefore] at h
    rcases List.mem_append.mp h with earlier | later
    · exact .inl (List.mem_append_left _ earlier)
    · rcases List.mem_cons.mp later with rfl | later
      · exact .inr rfl
      · exact .inl (List.mem_append_right _ (List.mem_cons_of_mem _ later))
  · rw [insert_of_notMem hn] at h
    simpa only [List.mem_append, List.mem_singleton] using h

theorem insert_ne_nil : members.insert name value ≠ [] := by
  cases members with
  | nil => exact List.cons_ne_nil _ _
  | cons m rest =>
    simp only [insert]
    split <;> exact List.cons_ne_nil _ _

/-- Distinct names stay distinct. -/
theorem nodup_insert (h : members.names.Nodup) : (members.insert name value).names.Nodup := by
  rw [names_insert]
  split
  · exact h
  · next notThere =>
    rw [List.nodup_append]
    refine ⟨h, List.nodup_singleton name, ?_⟩
    rintro a ha b hb rfl
    rw [List.mem_singleton] at hb
    exact notThere (hb ▸ ha)

/-- The first name stays the first one. -/
theorem head?_insert (nonempty : members ≠ []) :
    (members.insert name value).names.head? = members.names.head? := by
  obtain ⟨m, rest, rfl⟩ := List.exists_cons_of_ne_nil nonempty
  rw [names_insert]
  split <;> rfl

/-! ## Putting in many -/

@[simp] theorem insertAll_cons (m : String × Document) :
    insertAll members (m :: more) = insertAll (members.insert m.1 m.2) more := rfl

theorem nodup_insertAll (h : members.names.Nodup) : (insertAll members more).names.Nodup := by
  induction more generalizing members with
  | nil => exact h
  | cons m more ih => exact ih (nodup_insert h)

theorem head?_insertAll (nonempty : members ≠ []) :
    (insertAll members more).names.head? = members.names.head? := by
  induction more generalizing members with
  | nil => rfl
  | cons m more ih =>
    rw [insertAll_cons, ih insert_ne_nil, head?_insert nonempty]

/-- The members afterwards are members from before and those put in. -/
theorem mem_insertAll {m : String × Document} (h : m ∈ insertAll members more) :
    m ∈ members ∨ m ∈ more := by
  induction more generalizing members with
  | nil => exact .inl h
  | cons m' more ih =>
    rcases ih h with inserted | later
    · rcases mem_insert inserted with there | rfl
      · exact .inl there
      · exact .inr List.mem_cons_self
    · exact .inr (List.mem_cons_of_mem m' later)

/-- **Members with new and distinct names are appended.** -/
theorem insertAll_eq_append (h : (members ++ more).names.Nodup) : insertAll members more = members ++ more := by
  induction more generalizing members with
  | nil => exact (List.append_nil members).symm
  | cons m more ih =>
    -- The hypothesis moves over: what was put in belongs to the members already there.
    have new : m.1 ∉ members.names := by
      rw [names_append, names_cons, List.nodup_append] at h
      exact fun there => h.2.2 _ there _ List.mem_cons_self rfl
    rw [insertAll_cons, insert_of_notMem new, ih]
    · rw [List.append_assoc]
      rfl
    · rw [List.append_assoc]
      exact h

/-- Members with distinct names that are put in one after another come out as they are. -/
theorem insertAll_nil (h : members.names.Nodup) : insertAll [] members = members := insertAll_eq_append h

end Members
end Relabel
