import Mathlib.Data.List.Basic
import Mathlib.Data.List.Nodup
import Relabel.Proofs.Json.Relabel

/-!
# The laws of relabelling

`Members.relabel` is one pass with a state: a stand-in, a value picked up on the way, a value put in at the end.
Between different names the state comes to nothing. Once the moving value is known, and whether the new name is
taken, what becomes of a member depends on that member alone (`Members.moved`), and relabelling is a `filterMap`
(`Members.relabel_eq_filterMap`). Two relabellings in a row are then two `filterMap`s in a row, and a law about them is
checked on one member, wherever the names stand in the object. **The laws** are these, for members of distinct names:

- relabellings that have no name in common commute;
- a value that is moved to a free name and on from there might as well have been moved at once;
- moving a value to a free name and back again changes nothing.

**A name moved to itself is not a law.** The pass takes the new name for taken, gives up its place as that of the old
one, and the value comes in again at the end (`Document.relabel_self`). It stays where it was only if it was there
already.

Names are distinct in every object that `Members.insert` builds; `Document.NamesDistinct` asks for it at the top level,
which is all that relabelling looks at.
-/

namespace Relabel
namespace Members

variable {source target name : String} {members before after : Members} {taken : Bool} {v x : Document}

/-! ## Members one by one -/

/-- The members of other names than these, in order. -/
def besides (members : Members) (names : List String) : Members := members.filter (·.1 ∉ names)

/-- What becomes of one member when the value of `source` moves to `target`: the member of the old name goes if the new
name is taken and otherwise gets the new name, the member of the new name gets the value, and any other stays. -/
def moved (source target : String) (taken : Bool) (value : Document) (m : String × Document) :
    Option (String × Document) :=
  if m.1 = source then if taken then none else some (target, value)
  else if m.1 = target then some (target, value) else some m

theorem moved_of_ne {m : String × Document} (notSource : m.1 ≠ source) (notTarget : m.1 ≠ target) :
    moved source target taken v m = some m := by
  simp only [moved, if_neg notSource, if_neg notTarget]

/-- A relabelling with other names leaves what has become of a member. -/
theorem bind_moved_of_ne {a b : String} {m : String × Document} (notSource : m.1 ≠ source)
    (notTarget : m.1 ≠ target) (bSource : b ≠ source) (bTarget : b ≠ target) (free : Bool) :
    (moved a b free x m).bind (moved source target taken v) = moved a b free x m := by
  have stays : moved source target taken v (b, x) = some (b, x) := moved_of_ne bSource bTarget
  unfold moved at stays ⊢
  split
  · split
    · rfl
    · exact stays
  · split
    · exact stays
    · exact moved_of_ne notSource notTarget

theorem filterMap_moved_of_notMem (notSource : source ∉ members.names) (notTarget : target ∉ members.names) :
    members.filterMap (moved source target taken v) = members := by
  have stays : ∀ m ∈ members, moved source target taken v m = some m := by
    intro m hm
    have hn : m.1 ∈ members.names := List.mem_map_of_mem hm
    exact moved_of_ne (fun h => notSource (h ▸ hn)) (fun h => notTarget (h ▸ hn))
  rw [List.filterMap_congr stays, List.filterMap_some]

/-- **Relabelling looks at one member at a time.** What becomes of a member depends on its own name, on the value that
is moved, and on whether the new name is taken, and on none of the other members. So relabellings can be composed
member by member. -/
theorem relabel_eq_filterMap (distinct : members.names.Nodup) (there : (source, v) ∈ members)
    (differ : source ≠ target) :
    members.relabel source target = members.filterMap (moved source target (members.contains target) v) := by
  obtain ⟨before, after, rfl⟩ : ∃ before after : Members, members = before ++ (source, v) :: after :=
    List.append_of_mem there
  obtain ⟨notBefore, notAfter, others⟩ := nodup_split_iff.mp distinct
  have notOthers := notMem_others distinct
  rw [relabel_of_split distinct differ]
  split
  · next taken =>
    -- The old name's member vanishes, and the others are those around the new name's.
    have gone : moved source target true v (source, v) = none := by simp only [moved, ↓reduceIte]
    rw [(contains_others_iff differ).mpr taken, List.filterMap_append, List.filterMap_cons_none gone,
      ← List.filterMap_append]
    obtain ⟨earlier, old, later, shape, notEarlier⟩ := exists_split taken
    have replaced : moved source target true v (target, old) = some (target, v) := by
      simp only [moved, if_neg differ.symm, ↓reduceIte]
    rw [shape] at others notOthers ⊢
    obtain ⟨-, notLater, -⟩ := nodup_split_iff.mp others
    simp only [names_append, names_cons, List.mem_append, List.mem_cons, not_or] at notOthers
    rw [insert_of_split notEarlier, List.filterMap_append, List.filterMap_cons_some replaced,
      filterMap_moved_of_notMem notOthers.1 notEarlier, filterMap_moved_of_notMem notOthers.2.2 notLater]
  · next free =>
    have renamed : moved source target false v (source, v) = some (target, v) := by
      simp only [moved, ↓reduceIte, Bool.false_eq_true]
    have notTaken : contains (before ++ (source, v) :: after) target = false :=
      Bool.eq_false_iff.mpr (mt (contains_others_iff differ).mp free)
    rw [notTaken, List.filterMap_append, List.filterMap_cons_some renamed]
    rw [names_append, List.mem_append, not_or] at free
    rw [filterMap_moved_of_notMem notBefore free.1, filterMap_moved_of_notMem notAfter free.2]

/-! ## What is there afterwards -/

section

variable (distinct : members.names.Nodup) (there : (source, v) ∈ members) (differ : source ≠ target)

include distinct there differ

/-- **The members afterwards**: the moved value under the new name, and what stood under other names. Where each of
them stands is said elsewhere; of which they are, nothing else is needed. -/
theorem mem_relabel_iff {m : String × Document} :
    m ∈ members.relabel source target ↔ m = (target, v) ∨ m ∈ members ∧ m.1 ≠ source ∧ m.1 ≠ target := by
  rw [relabel_eq_filterMap distinct there differ, List.mem_filterMap]
  constructor
  · rintro ⟨m', hm', becomes⟩
    unfold moved at becomes
    split at becomes
    · split at becomes
      · cases becomes
      · exact .inl (Option.some.inj becomes).symm
    · next notSource =>
      split at becomes
      · exact .inl (Option.some.inj becomes).symm
      · next notTarget =>
        obtain rfl := Option.some.inj becomes
        exact .inr ⟨hm', notSource, notTarget⟩
  · rintro (rfl | ⟨hm, notSource, notTarget⟩)
    · by_cases taken : target ∈ members.names
      · obtain ⟨before, old, after, rfl, -⟩ := exists_split taken
        refine ⟨(target, old), List.mem_append_right _ List.mem_cons_self, ?_⟩
        simp only [moved, if_neg differ.symm, ↓reduceIte]
      · have free : members.contains target = false := contains_eq_false_iff.mpr taken
        refine ⟨(source, v), there, ?_⟩
        simp only [moved, free, ↓reduceIte, Bool.false_eq_true]
    · exact ⟨m, hm, moved_of_ne notSource notTarget⟩

theorem mem_names_relabel_iff (notSource : name ≠ source) (notTarget : name ≠ target) :
    name ∈ (members.relabel source target).names ↔ name ∈ members.names := by
  simp only [names, List.mem_map, mem_relabel_iff distinct there differ]
  constructor
  · rintro ⟨m, rfl | ⟨hm, -, -⟩, rfl⟩
    · exact absurd rfl notTarget
    · exact ⟨m, hm, rfl⟩
  · rintro ⟨m, hm, rfl⟩
    exact ⟨m, .inr ⟨hm, notSource, notTarget⟩, rfl⟩

theorem contains_relabel (notSource : name ≠ source) (notTarget : name ≠ target) :
    (members.relabel source target).contains name = members.contains name := by
  rw [Bool.eq_iff_iff, contains_iff, contains_iff, mem_names_relabel_iff distinct there differ notSource notTarget]

/-- The members of third names stand as they stood. -/
theorem besides_relabel :
    (members.relabel source target).besides [source, target] = members.besides [source, target] := by
  rw [relabel_eq_filterMap distinct there differ, besides, besides, List.filter_filterMap, ← List.filterMap_eq_filter]
  refine List.filterMap_congr fun m _ => ?_
  by_cases isSource : m.1 = source
  · cases members.contains target <;> simp [moved, isSource, Option.guard, Option.filter]
  · by_cases isTarget : m.1 = target
    · simp [moved, isTarget, differ.symm, Option.guard, Option.filter]
    · simp [moved_of_ne isSource isTarget, isSource, isTarget]

theorem mem_relabel_of_ne (notSource : name ≠ source) (notTarget : name ≠ target) :
    (name, x) ∈ members.relabel source target ↔ (name, x) ∈ members := by
  rw [mem_relabel_iff distinct there differ]
  constructor
  · rintro (same | ⟨hm, -, -⟩)
    · exact absurd (congrArg Prod.fst same) notTarget
    · exact hm
  · exact fun hm => .inr ⟨hm, notSource, notTarget⟩

end

/-! ## The laws for members -/

section

variable {a b c e : String} {w : Document} (distinct : members.names.Nodup)

include distinct

/-- **Relabellings without a common name commute.** Either of them leaves the members that the other one is about, and
whether that one's new name is taken; so for each member the order makes no difference. -/
theorem relabel_comm (hab : a ≠ b) (hce : c ≠ e) (hac : a ≠ c) (hae : a ≠ e) (hbc : b ≠ c) (hbe : b ≠ e)
    (ha : (a, v) ∈ members) (hc : (c, w) ∈ members) :
    (members.relabel a b).relabel c e = (members.relabel c e).relabel a b := by
  have ha' : a ∈ members.names := List.mem_map_of_mem ha
  have hc' : c ∈ members.names := List.mem_map_of_mem hc
  have cThere := (mem_relabel_of_ne distinct ha hab (Ne.symm hac) (Ne.symm hbc)).mpr hc
  have aThere := (mem_relabel_of_ne distinct hc hce hac hae).mpr ha
  rw [relabel_eq_filterMap (nodup_names_relabel distinct ha' hab) cThere hce,
    relabel_eq_filterMap (nodup_names_relabel distinct hc' hce) aThere hab,
    contains_relabel distinct ha hab (Ne.symm hae) (Ne.symm hbe), contains_relabel distinct hc hce hbc hbe,
    relabel_eq_filterMap distinct ha hab, relabel_eq_filterMap distinct hc hce, List.filterMap_filterMap,
    List.filterMap_filterMap]
  refine List.filterMap_congr fun m _ => ?_
  -- One of the two relabellings has nothing to do with the member.
  by_cases first : m.1 = a ∨ m.1 = b
  · have notC : m.1 ≠ c := by rcases first with h | h <;> rw [h] <;> assumption
    have notE : m.1 ≠ e := by rcases first with h | h <;> rw [h] <;> assumption
    rw [bind_moved_of_ne notC notE hbc hbe, moved_of_ne notC notE, Option.bind_some]
  · obtain ⟨notA, notB⟩ := not_or.mp first
    rw [bind_moved_of_ne notA notB (Ne.symm hae) (Ne.symm hbe), moved_of_ne notA notB, Option.bind_some]

/-- A value that stops at a free name on its way might as well have gone on at once. -/
theorem relabel_relabel (hab : a ≠ b) (hbc : b ≠ c) (hac : a ≠ c) (ha : (a, v) ∈ members)
    (free : b ∉ members.names) : (members.relabel a b).relabel b c = members.relabel a c := by
  have stop : (b, v) ∈ members.relabel a b := (mem_relabel_iff distinct ha hab).mpr (.inl rfl)
  have notTaken : members.contains b = false := contains_eq_false_iff.mpr free
  rw [relabel_eq_filterMap (nodup_names_relabel distinct (List.mem_map_of_mem ha) hab) stop hbc,
    contains_relabel distinct ha hab (Ne.symm hac) (Ne.symm hbc), relabel_eq_filterMap distinct ha hab,
    relabel_eq_filterMap distinct ha hac, notTaken, List.filterMap_filterMap]
  refine List.filterMap_congr fun m hm => ?_
  have notFree : m.1 ≠ b := fun h => free (h ▸ List.mem_map_of_mem hm)
  by_cases isSource : m.1 = a
  · simp only [moved, isSource, ↓reduceIte, Bool.false_eq_true, Option.bind_some]
  · rw [moved_of_ne isSource notFree, Option.bind_some]
    simp only [moved, if_neg isSource, if_neg notFree]

/-- A value that is moved to a free name and back leaves no trace. -/
theorem relabel_back (hab : a ≠ b) (ha : (a, v) ∈ members) (free : b ∉ members.names) :
    (members.relabel a b).relabel b a = members := by
  have ha' : a ∈ members.names := List.mem_map_of_mem ha
  have there : (b, v) ∈ members.relabel a b := (mem_relabel_iff distinct ha hab).mpr (.inl rfl)
  have notTaken : members.contains b = false := contains_eq_false_iff.mpr free
  have gone : (members.relabel a b).contains a = false :=
    contains_eq_false_iff.mpr (notMem_names_relabel distinct ha' hab)
  rw [relabel_eq_filterMap (nodup_names_relabel distinct ha' hab) there hab.symm, gone,
    relabel_eq_filterMap distinct ha hab, notTaken, List.filterMap_filterMap]
  have restored : ∀ m ∈ members, (moved a b false v m).bind (moved b a false v) = some m := by
    intro m hm
    have notFree : m.1 ≠ b := fun h => free (h ▸ List.mem_map_of_mem hm)
    by_cases isSource : m.1 = a
    · -- Only one member has the name, and it is the one that moved.
      obtain rfl : m = (a, v) := List.inj_on_of_nodup_map distinct hm ha isSource
      simp only [moved, ↓reduceIte, Bool.false_eq_true, Option.bind_some]
    · rw [moved_of_ne isSource notFree, Option.bind_some, moved_of_ne notFree isSource]
  rw [List.filterMap_congr restored, List.filterMap_some]

end

/-! ## A name moved to itself -/

/-- A name moved to itself is put in again behind the others. -/
theorem relabel_to_itself (distinct : (before ++ (name, v) :: after).names.Nodup) :
    relabel (before ++ (name, v) :: after) name name = before ++ after ++ [(name, v)] := by
  obtain ⟨-, -, others⟩ := nodup_split_iff.mp distinct
  have taken : contains (before ++ (name, v) :: after) name = true :=
    contains_iff.mpr (List.mem_map_of_mem (List.mem_append_right before List.mem_cons_self))
  rw [relabel_pass distinct, if_pos taken, insertAll_eq_append others, insert_of_notMem (notMem_others distinct)]

end Members

namespace Document

open Members

variable {source target name : String} {d : Document} {members before after : Members} {v : Document}

/-- No two members of the document have one name, if it is an object. -/
def NamesDistinct : Document → Prop
  | .object members => (Members.names members).Nodup
  | _ => True

instance : ∀ d : Document, Decidable d.NamesDistinct
  | .object members => inferInstanceAs (Decidable (Members.names members).Nodup)
  | .null | .bool _ | .number _ | .string _ | .array _ => isTrue trivial

/-- Every document that is read has distinct names. -/
theorem namesDistinct_of_read {text : Bytes} (h : read text = .ok d) : d.NamesDistinct := by
  cases wellFormed_of_read h with
  | object distinct _ _ => exact distinct
  | _ => trivial

theorem get?_object : (object members).get? name = members.get? name := rfl

/-- A document without the old name is left alone. -/
theorem relabel_of_missing (h : d.get? source = none) : d.relabel source target = (false, d) := by
  cases d with
  | object members =>
    rw [get?_object, get?_eq_none_iff, ← contains_eq_false_iff] at h
    simp only [relabel, h, ↓reduceIte, Bool.false_eq_true]
  | _ => rfl

theorem relabel_of_mem (h : (source, v) ∈ members) :
    (object members).relabel source target = (true, .object (members.relabel source target)) :=
  relabel_true_iff.mpr ⟨members, rfl, List.mem_map_of_mem h, rfl⟩

/-- A document either lacks the name or is an object with a member of it. -/
theorem get?_cases (distinct : d.NamesDistinct) (name : String) :
    d.get? name = none ∨ ∃ (members : Members) (v : Document), d = .object members ∧ (name, v) ∈ members := by
  cases found : d.get? name with
  | none => exact .inl rfl
  | some v =>
    cases d with
    | object members => exact .inr ⟨members, v, rfl, (get?_eq_some_iff distinct).mp found⟩
    | _ => cases found

/-! ## What relabelling does -/

/-- The answer says whether the old name is there. -/
theorem relabel_fst : (d.relabel source target).1 = (d.get? source).isSome := by
  cases d with
  | object members =>
    rw [get?_object, relabel, Bool.eq_iff_iff, Option.isSome_iff_ne_none, ne_eq, get?_eq_none_iff, Decidable.not_not,
      ← contains_iff]
    split
    · next there => exact iff_of_true rfl there
    · next missing => exact iff_of_false Bool.false_ne_true missing
  | _ => rfl

/-- Third names have the values they had. -/
theorem get?_relabel_of_ne (distinct : d.NamesDistinct) (differ : source ≠ target) (notSource : name ≠ source)
    (notTarget : name ≠ target) : (d.relabel source target).2.get? name = d.get? name := by
  rcases get?_cases distinct source with missing | ⟨members, v, rfl, there⟩
  · rw [relabel_of_missing missing]
  · have distinct' := nodup_names_relabel distinct (List.mem_map_of_mem there) differ
    rw [relabel_of_mem there]
    refine Option.ext fun x => ?_
    rw [get?_object, get?_object, get?_eq_some_iff distinct, get?_eq_some_iff distinct',
      mem_relabel_of_ne distinct there differ notSource notTarget]

theorem namesDistinct_relabel (distinct : d.NamesDistinct) (differ : source ≠ target) :
    (d.relabel source target).2.NamesDistinct := by
  rcases get?_cases distinct source with missing | ⟨members, v, rfl, there⟩
  · rw [relabel_of_missing missing]
    exact distinct
  · rw [relabel_of_mem there]
    exact nodup_names_relabel distinct (List.mem_map_of_mem there) differ

/-- **A member is relabelled where it stands, or its value is where the new name stands.** The answer says whether the
document is an object with the old name, and any other document is left alone. If the new name is free, it takes the
place of the old one; if it is taken, the old one's member is gone and the value stands under the new name. Members of
third names stand as they stood, and names stay distinct. -/
theorem relabel_in_place (distinct : d.NamesDistinct) (differ : source ≠ target) :
    ((d.relabel source target).1 = true ↔ ∃ members, d = .object members ∧ source ∈ Members.names members) ∧
      ((d.relabel source target).1 = false → (d.relabel source target).2 = d) ∧
      (∀ before v after, d = .object (before ++ (source, v) :: after) →
        d.get? source = some v ∧
          (d.get? target = none → d.relabel source target = (true, .object (before ++ (target, v) :: after))) ∧
          ∀ earlier old later, before ++ after = earlier ++ (target, old) :: later →
            d.relabel source target = (true, .object (earlier ++ (target, v) :: later))) ∧
      (∀ members : Members, d = .object members →
        ∃ members' : Members, (d.relabel source target).2 = .object members' ∧
          members'.besides [source, target] = members.besides [source, target]) ∧
      (d.relabel source target).2.NamesDistinct := by
  refine ⟨?_, ?_, ?_, ?_, namesDistinct_relabel distinct differ⟩
  · constructor
    · intro succeeds
      obtain ⟨members, rfl, there, -⟩ := relabel_true_iff.mp (Prod.ext succeeds rfl)
      exact ⟨members, rfl, there⟩
    · rintro ⟨members, rfl, there⟩
      exact congrArg Prod.fst (relabel_true_iff.mpr ⟨members, rfl, there, rfl⟩)
  · intro fails
    rcases get?_cases distinct source with missing | ⟨members, v, rfl, there⟩
    · rw [relabel_of_missing missing]
    · rw [relabel_of_mem there] at fails
      cases fails
  · rintro before v after rfl
    have there : (source, v) ∈ before ++ (source, v) :: after := List.mem_append_right _ List.mem_cons_self
    have equation := @Members.relabel_of_split source target before after v distinct differ
    obtain ⟨-, -, others⟩ := nodup_split_iff.mp distinct
    refine ⟨(get?_eq_some_iff distinct).mpr there, fun free => ?_, fun earlier old later shape => ?_⟩
    · have notThere : target ∉ Members.names (before ++ after) := by
        rw [get?_object, get?_eq_none_iff] at free
        simp only [names_append, names_cons, List.mem_append, List.mem_cons, not_or] at free ⊢
        exact ⟨free.1, free.2.2⟩
      rw [relabel_of_mem there, equation, if_neg notThere]
    · rw [shape] at equation others
      obtain ⟨notEarlier, -, -⟩ := nodup_split_iff.mp others
      have taken : target ∈ Members.names (earlier ++ (target, old) :: later) :=
        List.mem_map_of_mem (List.mem_append_right earlier List.mem_cons_self)
      rw [relabel_of_mem there, equation, if_pos taken, insert_of_split notEarlier]
  · rintro members rfl
    rcases get?_cases distinct source with missing | ⟨_, v, same, there⟩
    · exact ⟨members, by rw [relabel_of_missing missing], rfl⟩
    · cases same
      exact ⟨_, by rw [relabel_of_mem there], besides_relabel distinct there differ⟩

/-- The new name stands in front of the old one and is taken; what is between them stays there. -/
theorem relabel_in_place_taken :
    let members : Members := [("new", .null), ("between", .bool true), ("old", .string "moved"), ("last", .array [])]
    let d := Document.object members
    d.NamesDistinct ∧ "old" ≠ "new" ∧
      d.relabel "old" "new" =
        (true, .object [("new", .string "moved"), ("between", .bool true), ("last", .array [])]) := by
  intro members d
  have distinct : d.NamesDistinct := by decide
  have differ : "old" ≠ "new" := by decide
  obtain ⟨-, -, moves, -⟩ := relabel_in_place distinct differ
  obtain ⟨-, -, taken⟩ :=
    moves [("new", .null), ("between", .bool true)] (.string "moved") [("last", .array [])] rfl
  exact ⟨distinct, differ, taken [] .null _ rfl⟩

/-! ## No law for one name -/

/-- **A member that gets the name it has goes to the end.** Value and name are kept, and so is the place, if it is the
last one. -/
theorem relabel_self (distinct : (before ++ (name, v) :: after).names.Nodup) :
    (object (before ++ (name, v) :: after)).relabel name name =
        (true, .object (before ++ after ++ [(name, v)])) ∧
      ((object (before ++ (name, v) :: after)).relabel name name = (true, .object (before ++ (name, v) :: after)) ↔
        after = []) := by
  obtain ⟨notBefore, notAfter, others⟩ := nodup_split_iff.mp distinct
  have there : (name, v) ∈ before ++ (name, v) :: after := List.mem_append_right _ List.mem_cons_self
  rw [relabel_of_mem there, Members.relabel_to_itself distinct]
  refine ⟨rfl, ?_⟩
  simp only [Prod.mk.injEq, true_and, object.injEq, List.append_assoc, List.append_cancel_left_eq]
  constructor
  · intro same
    cases after with
    | nil => rfl
    | cons m after =>
      -- The member behind would be the one that moved, and names are distinct.
      obtain rfl := (List.cons.inj same).1
      exact absurd List.mem_cons_self notAfter
  · rintro rfl
    rfl

/-- A member in the middle. -/
theorem relabel_self_middle :
    (Members.names [("a", .null), ("b", .bool true), ("c", .null)]).Nodup ∧
      (object [("a", .null), ("b", .bool true), ("c", .null)]).relabel "b" "b" =
        (true, .object [("a", .null), ("c", .null), ("b", .bool true)]) := by
  have distinct : (Members.names ([("a", .null)] ++ ("b", .bool true) :: [("c", .null)])).Nodup := by decide
  exact ⟨distinct, (relabel_self distinct).1⟩

/-- **Moving a name to itself may change the document**: of two members, the first one comes to stand last. -/
theorem relabel_self_moves :
    let d := Document.object [("a", .bool true), ("b", .null)]
    d.NamesDistinct ∧ d.get? "a" = some (.bool true) ∧
      d.relabel "a" "a" = (true, .object [("b", .null), ("a", .bool true)]) ∧ d.relabel "a" "a" ≠ (true, d) := by
  intro d
  have moved : d.relabel "a" "a" = (true, .object [("b", .null), ("a", .bool true)]) := rfl
  refine ⟨by decide, rfl, moved, fun same => ?_⟩
  rw [moved] at same
  simp [d] at same

/-! ## The laws -/

/-- **The laws of relabelling.** Relabellings without a common name can be done in either order: the document is the
same in the end, and each of them is answered as if it were the first. A value that stops at a free name on its way to
another comes there as if it had gone at once, and if it goes back the document is what it was. -/
theorem relabel_laws (distinct : d.NamesDistinct) :
    (∀ a b c e, a ≠ b → c ≠ e → List.Disjoint [a, b] [c, e] →
      ((d.relabel a b).2.relabel c e).2 = ((d.relabel c e).2.relabel a b).2 ∧
        ((d.relabel a b).2.relabel c e).1 = (d.relabel c e).1 ∧
        ((d.relabel c e).2.relabel a b).1 = (d.relabel a b).1) ∧
      (∀ a b c, a ≠ b → b ≠ c → a ≠ c → d.get? b = none →
        (d.relabel a b).2.relabel b c = d.relabel a c) ∧
      ∀ a b, a ≠ b → d.get? a ≠ none → d.get? b = none → (d.relabel a b).2.relabel b a = (true, d) := by
  refine ⟨fun a b c e hab hce apart => ?_, fun a b c hab hbc hac free => ?_, fun a b hab there free => ?_⟩
  · simp only [List.disjoint_cons_left, List.mem_cons, List.not_mem_nil, or_false, not_or, List.disjoint_nil_left,
      and_true] at apart
    obtain ⟨⟨hac, hae⟩, hbc, hbe⟩ := apart
    have aAfter := get?_relabel_of_ne distinct hce hac hae
    have cAfter := get?_relabel_of_ne distinct hab (Ne.symm hac) (Ne.symm hbc)
    refine ⟨?_, by rw [relabel_fst, cAfter, relabel_fst], by rw [relabel_fst, aAfter, relabel_fst]⟩
    rcases get?_cases distinct a with missing | ⟨members, v, rfl, ha⟩
    · rw [relabel_of_missing missing, relabel_of_missing (aAfter.trans missing)]
    rcases get?_cases distinct c with missing | ⟨_, w, same, hc⟩
    · rw [relabel_of_missing missing, relabel_of_missing (cAfter.trans missing)]
    cases same
    have ha' := (mem_relabel_of_ne distinct hc hce hac hae).mpr ha
    have hc' := (mem_relabel_of_ne distinct ha hab (Ne.symm hac) (Ne.symm hbc)).mpr hc
    rw [relabel_of_mem ha, relabel_of_mem hc, relabel_of_mem ha', relabel_of_mem hc',
      Members.relabel_comm distinct hab hce hac hae hbc hbe ha hc]
  · rcases get?_cases distinct a with missing | ⟨members, v, rfl, ha⟩
    · rw [relabel_of_missing missing, relabel_of_missing missing, relabel_of_missing free]
    · have stop : (b, v) ∈ members.relabel a b := (mem_relabel_iff distinct ha hab).mpr (.inl rfl)
      rw [get?_object, get?_eq_none_iff] at free
      rw [relabel_of_mem ha, relabel_of_mem ha, relabel_of_mem stop,
        Members.relabel_relabel distinct hab hbc hac ha free]
  · rcases get?_cases distinct a with missing | ⟨members, v, rfl, ha⟩
    · exact absurd missing there
    · have stop : (b, v) ∈ members.relabel a b := (mem_relabel_iff distinct ha hab).mpr (.inl rfl)
      rw [get?_object, get?_eq_none_iff] at free
      rw [relabel_of_mem ha, relabel_of_mem stop, Members.relabel_back distinct hab ha free]

/-- Two relabellings that both meet a taken name, a way over a free name to a taken one, and a way there and back. -/
theorem relabel_laws_crossing :
    let d := Document.object [("c", .null), ("b", .bool true), ("a", .string "v"), ("e", .array [])]
    d.NamesDistinct ∧
      ((d.relabel "a" "b").2.relabel "c" "e").2 = ((d.relabel "c" "e").2.relabel "a" "b").2 ∧
      (d.relabel "a" "free").2.relabel "free" "e" = d.relabel "a" "e" ∧
      (d.relabel "a" "free").2.relabel "free" "a" = (true, d) := by
  intro d
  have distinct : d.NamesDistinct := by decide
  obtain ⟨commute, onward, back⟩ := relabel_laws distinct
  have apart : List.Disjoint ["a", "b"] ["c", "e"] := by simp
  refine ⟨distinct, (commute "a" "b" "c" "e" (by decide) (by decide) apart).1, ?_, ?_⟩
  · exact onward "a" "free" "e" (by decide) (by decide) (by decide) rfl
  · exact back "a" "free" (by decide) (fun h => nomatch h) rfl

end Document
end Relabel
