import Relabel.Json.Relabel
import Relabel.Proofs.Json.RoundTrip

/-!
# What a relabelled document is

`Members.relabel` rebuilds an object in one pass with a stand-in; here it is said in one equation
(`Members.relabel_of_split`): with the members before and after the old name in hand, the new name stands in
the old place if it is free, and otherwise the value goes to where the new name stands. All other facts are
read off that equation: the old name is gone, names stay distinct, values stay what they were.

**The exception is the first name.** Relabelling may take the first member away, and then the second name
becomes the first one. If that is `numberMark`, the object's layout no longer is the text of an object, and it
is not the text of a number either, because the member that has taken the value stands behind it.
`Document.Uncovers` describes the documents to which this happens. A relabelled document that does not uncover
the mark is well-formed like the one it comes from (`wellFormed_relabelled`); the layout of one that does is
no text of a document (`read_uncovered`).
-/

namespace Relabel
namespace Members

variable {source target : String} {members before after : Members} {v : Document}

/-! ## The pass -/

/-- Members with other names than the old one are put in as they are. -/
theorem foldl_rebuild_others {taken : Bool} {more : Members} (h : source ∉ more.names) (built : Members)
    (moved : Document) :
    more.foldl (rebuild source target taken) (built, moved) = (built.insertAll more, moved) := by
  induction more generalizing built with
  | nil => rfl
  | cons m more ih =>
    rw [names_cons, List.mem_cons, not_or] at h
    simp only [List.foldl_cons, rebuild, if_neg (Ne.symm h.1), insertAll_cons]
    exact ih h.2 _

/-- The pass with the old name's member in hand: a stand-in takes its place if the new name is free, and the value
goes in behind the other members. -/
theorem relabel_pass (h : (before ++ (source, v) :: after).names.Nodup) :
    relabel (before ++ (source, v) :: after) source target =
      insert (insertAll (if contains (before ++ (source, v) :: after) target then before
        else insert before target .null) after) target v := by
  obtain ⟨notBefore, notAfter, distinct⟩ := nodup_split_iff.mp h
  have earlier : insertAll [] before = before := by
    rw [names_append, List.nodup_append] at distinct
    exact insertAll_nil distinct.1
  simp only [relabel, List.foldl_append, List.foldl_cons]
  rw [foldl_rebuild_others notBefore, earlier]
  simp only [rebuild, ↓reduceIte]
  rw [foldl_rebuild_others notAfter]

/-- **Relabelling in one equation.** The members fall into those in front of the old name and those behind it, and the
pass over them, with its stand-in, comes to this: if another member has the new name, that one gets the value, where
it stands; if none has it, the new name stands in the place of the old one. -/
theorem relabel_of_split (h : (before ++ (source, v) :: after).names.Nodup) (differ : source ≠ target) :
    relabel (before ++ (source, v) :: after) source target =
      if target ∈ (before ++ after).names then (before ++ after).insert target v
      else before ++ (target, v) :: after := by
  obtain ⟨-, -, distinct⟩ := nodup_split_iff.mp h
  rw [relabel_pass h]
  split
  · next taken =>
    rw [if_pos ((contains_others_iff differ).mp taken), insertAll_eq_append distinct]
  · next free =>
    -- The stand-in takes the place of the old name and is what the value is put in for at the end.
    rw [contains_others_iff differ] at free
    rw [if_neg free]
    rw [names_append, List.mem_append, not_or] at free
    have placed : (before ++ (target, Document.null) :: after).names.Nodup :=
      nodup_split_iff.mpr ⟨free.1, free.2, distinct⟩
    rw [List.append_cons] at placed
    rw [insert_of_notMem free.1, insertAll_eq_append placed, List.append_assoc]
    exact insert_of_split free.1

/-! ## What is read off it -/

section

variable (distinct : members.names.Nodup) (there : source ∈ members.names) (differ : source ≠ target)

include distinct there differ

/-- The old name is gone. -/
theorem notMem_names_relabel : source ∉ (members.relabel source target).names := by
  obtain ⟨before, v, after, rfl, -⟩ := exists_split there
  obtain ⟨notBefore, notAfter, -⟩ := nodup_split_iff.mp distinct
  rw [relabel_of_split distinct differ]
  split
  · next taken =>
    rw [names_insert, if_pos taken]
    exact notMem_others distinct
  · rw [names_append, names_cons, List.mem_append, List.mem_cons, not_or, not_or]
    exact ⟨notBefore, differ, notAfter⟩

/-- Names stay distinct. -/
theorem nodup_names_relabel : (members.relabel source target).names.Nodup := by
  obtain ⟨before, v, after, rfl, -⟩ := exists_split there
  obtain ⟨-, -, others⟩ := nodup_split_iff.mp distinct
  rw [relabel_of_split distinct differ]
  split
  · exact nodup_insert others
  · next free =>
    rw [names_append, List.mem_append, not_or] at free
    exact nodup_split_iff.mpr ⟨free.1, free.2, others⟩

/-- Every value was a value before. -/
theorem mem_relabel {m : String × Document} (h : m ∈ members.relabel source target) :
    ∃ m' ∈ members, m.2 = m'.2 := by
  obtain ⟨before, v, after, rfl, -⟩ := exists_split there
  have moved : (source, v) ∈ before ++ (source, v) :: after :=
    List.mem_append_right before List.mem_cons_self
  have stayed : before ++ after ⊆ before ++ (source, v) :: after :=
    ((List.sublist_cons_self (source, v) after).append_left before).subset
  rw [relabel_of_split distinct differ] at h
  split at h
  · rcases mem_insert h with hm | rfl
    · exact ⟨m, stayed hm, rfl⟩
    · exact ⟨_, moved, rfl⟩
  · rcases List.mem_append.mp h with hm | hm
    · exact ⟨m, List.mem_append_left _ hm, rfl⟩
    · rcases List.mem_cons.mp hm with rfl | hm
      · exact ⟨_, moved, rfl⟩
      · exact ⟨m, List.mem_append_right _ (List.mem_cons_of_mem _ hm), rfl⟩

/-- **Which name comes to stand first.** A name that was not the first one and is not the new one comes to stand first
exactly if it was second behind the old name, and the new name stood further on. Only then does the first place go to
a member that nothing was done to. -/
theorem head?_names_relabel_iff {name : String} (notFirst : members.names.head? ≠ some name)
    (notTarget : target ≠ name) :
    (members.relabel source target).names.head? = some name ↔
      ∃ v x rest, members = (source, v) :: (name, x) :: rest ∧ target ∈ names rest := by
  constructor
  · intro h
    obtain ⟨before, v, after, rfl, -⟩ := exists_split there
    rw [relabel_of_split distinct differ] at h
    cases before with
    | cons m before =>
      -- The first member is not the one that moves, so it stays the first.
      exfalso
      split at h
      · rw [List.cons_append, head?_insert (List.cons_ne_nil _ _)] at h
        exact notFirst h
      · exact notFirst h
    | nil =>
      rw [List.nil_append] at h
      split at h
      · next taken =>
        cases after with
        | nil => cases taken
        | cons m rest =>
          rw [head?_insert (List.cons_ne_nil _ _)] at h
          obtain ⟨key, x⟩ := m
          obtain rfl : key = name := Option.some.inj h
          rw [names_cons, List.mem_cons] at taken
          exact ⟨v, x, rest, rfl, taken.resolve_left notTarget⟩
      · exact absurd (Option.some.inj h) notTarget
  · rintro ⟨v, x, rest, rfl, taken⟩
    have equation := @relabel_of_split source target [] ((name, x) :: rest) v distinct differ
    have there' : target ∈ names ((name, x) :: rest) := List.mem_cons_of_mem _ taken
    rw [List.nil_append, List.nil_append, if_pos there'] at equation
    rw [equation, head?_insert (List.cons_ne_nil _ _)]
    rfl

end

/-- Where the first member is taken away for a name further on, the others keep their places. -/
theorem relabel_front {m : String × Document} {rest : Members}
    (distinct : (names ((source, v) :: m :: rest)).Nodup) (differ : source ≠ target)
    (notSecond : m.1 ≠ target) (taken : target ∈ rest.names) :
    relabel ((source, v) :: m :: rest) source target = m :: rest.insert target v := by
  have equation := @relabel_of_split source target [] (m :: rest) v distinct differ
  have there : target ∈ names (m :: rest) := List.mem_cons_of_mem _ taken
  obtain ⟨key, x⟩ := m
  rw [List.nil_append, List.nil_append, if_pos there] at equation
  simpa only [insert, if_neg notSecond] using equation

end Members

namespace Document

open Reader

variable {source target : String} {depth : Nat} {d d' : Document}

/-- Relabelling succeeds exactly on an object that has the old name. -/
theorem relabel_true_iff :
    d.relabel source target = (true, d') ↔
      ∃ members, d = .object members ∧ source ∈ Members.names members ∧
        d' = .object (Members.relabel members source target) := by
  cases d with
  | object members =>
    simp only [relabel]
    split
    · next there =>
      rw [Members.contains_iff] at there
      simp only [Prod.mk.injEq, true_and, object.injEq, exists_eq_left', there]
      exact eq_comm
    · next missing =>
      rw [Members.contains_iff] at missing
      simp only [Prod.mk.injEq, Bool.false_eq_true, false_and, object.injEq, exists_eq_left', missing]
  | _ => simp only [relabel, Prod.mk.injEq, Bool.false_eq_true, false_and, reduceCtorEq, exists_false]

/-- The document takes the mark into the first place when it is relabelled: the old name is its first one and
the mark its second, and the new name stands further on. -/
def Uncovers (source target : String) (d : Document) : Prop :=
  ∃ v x rest, d = .object ((source, v) :: (numberMark, x) :: rest) ∧ target ∈ Members.names rest

/-- A relabelled document cannot be relabelled again. -/
theorem relabel_relabelled (h : d.WellFormed depth) (differ : source ≠ target)
    (hr : d.relabel source target = (true, d')) : d'.relabel source target = (false, d') := by
  obtain ⟨members, rfl, there, rfl⟩ := relabel_true_iff.mp hr
  cases h with
  | object distinct _ _ =>
    have gone := Members.notMem_names_relabel distinct there differ
    rw [← Members.contains_iff, Bool.not_eq_true] at gone
    simp only [relabel, gone, Bool.false_eq_true, ↓reduceIte]

/-- **A relabelled document is well-formed, unless it uncovers the mark.** Names stay distinct and values are what
they were; what can go wrong is the first name, which must not be the mark, and `head?_names_relabel_iff` says when it
comes to be. -/
theorem wellFormed_relabelled (h : d.WellFormed depth) (differ : source ≠ target)
    (hr : d.relabel source target = (true, d')) (notMark : target ≠ numberMark)
    (covered : ¬ d.Uncovers source target) : d'.WellFormed depth := by
  obtain ⟨members, rfl, there, rfl⟩ := relabel_true_iff.mp hr
  cases h with
  | object distinct unmarked values =>
    refine .object (Members.nodup_names_relabel distinct there differ) ?_ fun m hm => ?_
    · rw [ne_eq, Members.head?_names_relabel_iff distinct there differ unmarked notMark]
      rintro ⟨v, x, rest, rfl, taken⟩
      exact covered ⟨v, x, rest, rfl, taken⟩
    · obtain ⟨m', hm', same⟩ := Members.mem_relabel distinct there differ hm
      exact same ▸ values m' hm'

/-- **The layout of a document that uncovers the mark is no text of a document.** The mark is the first of several
names then, and such an object is taken for the written form of a number and found to be none. -/
theorem read_uncovered (h : d.WellFormed depthLimit) (differ : source ≠ target)
    (hr : d.relabel source target = (true, d')) (notMark : target ≠ numberMark)
    (uncovers : d.Uncovers source target) : ∃ fault, read d'.layout = .error fault := by
  obtain ⟨members, rfl, there, rfl⟩ := relabel_true_iff.mp hr
  obtain ⟨v, x, rest, shape, taken⟩ := uncovers
  obtain rfl := object.inj shape
  cases h with
  | object distinct _ values =>
    rw [Members.relabel_front distinct differ notMark.symm taken]
    obtain ⟨m, more, hm⟩ := List.exists_cons_of_ne_nil
      (Members.insert_ne_nil : Members.insert rest target v ≠ [])
    rw [hm]
    exact read_layout_marked (values (numberMark, x) (List.mem_cons_of_mem _ List.mem_cons_self))

end Document
end Relabel
