import Relabel.Proofs.Json.Reading

/-!
# The documents that are read

`Document.WellFormed depth` describes the documents that texts can be read as, `depth` being how many arrays
and objects may be open at once: names in an object are distinct, number literals keep the grammar, and no
object has `numberMark` as its *first* name. The last condition is all that the written form of a number
leaves of itself: anywhere but in front the mark is a name like any other, and in front it never makes an
object.

`wellFormed_of_read` says that every document that is read is of this kind. That each of them is read from
some text is said where the text is, in the layout's round trip.
-/

namespace Relabel
namespace Document

/-- `WellFormed depth d`: the document `d` opens at most `depth` arrays and objects at once, and is one that
texts can be read as. -/
inductive WellFormed : Nat → Document → Prop
  | null {depth : Nat} : WellFormed depth .null
  | bool {depth : Nat} (value : Bool) : WellFormed depth (.bool value)
  /-- A number with a literal of the grammar. -/
  | number {depth : Nat} {literal : Number} : literal.wellFormed = true → WellFormed depth (.number literal)
  | string {depth : Nat} (text : String) : WellFormed depth (.string text)
  | array {depth : Nat} {items : List Document} :
    (∀ item ∈ items, WellFormed depth item) → WellFormed (depth + 1) (.array items)
  /-- An object with distinct names, of which the first is not `numberMark`. -/
  | object {depth : Nat} {members : Members} :
    members.names.Nodup → members.names.head? ≠ some Reader.numberMark →
    (∀ m ∈ members, WellFormed depth m.2) → WellFormed (depth + 1) (.object members)

open Reader Grammar

/-- The number that a string holds has a literal of the grammar. -/
theorem wellFormed_of_numberText {bytes : Bytes} {n : Number} (h : numberText bytes = .ok n) :
    n.wellFormed = true := by
  unfold numberText at h
  split at h
  · cases h
  split at h
  · dsimp only at h
    split at h
    · next hscan =>
      cases h
      split at hscan
      · exact (Number.scanUnsigned_ok hscan).1
      · exact (Number.scanUnsigned_ok hscan).1
    · cases h
    · split at h <;> cases h
  · cases h

end Document

namespace Grammar

open Reader Document

/-- What is well-formed in a phrase: its document, or each of the documents it adds. -/
def Meaning.WellFormed (depth : Nat) : Meaning → Prop
  | .value d => d.WellFormed depth
  | .moreItems items => ∀ item ∈ items, item.WellFormed depth
  | .moreMembers members => ∀ m ∈ members, m.2.WellFormed depth

/-- **What a phrase stands for is well-formed.** The induction is on the phrase; what is behind the first
item or member of a container is a phrase of its own and comes with its own hypothesis. -/
theorem wellFormed_of_phrase {depth : Nat} {bytes rest : Bytes} {p : Meaning}
    (h : Phrase depth bytes p rest) : p.WellFormed depth := by
  induction h with
  | null => exact .null
  | yes | no => exact .bool _
  | negative _ hn => exact .number (Number.scanUnsigned_ok hn).1
  | positive _ _ hn => exact .number (Number.scanUnsigned_ok hn).1
  | string => exact .string _
  | emptyArray => exact .array fun _ h => nomatch h
  | array _ _ _ item more =>
    refine .array fun d hd => ?_
    rcases List.mem_cons.mp hd with rfl | hd
    · exact item
    · exact more d hd
  | emptyObject => exact .object List.nodup_nil (fun h => nomatch h) fun _ h => nomatch h
  | marked _ _ _ hm =>
    obtain ⟨_, _, _, hn, _⟩ := hm
    exact .number (wellFormed_of_numberText hn)
  | @object _ _ _ _ _ _ _ _ name first others _ _ _ unmarked _ _ _ item more =>
    have single : Members.names [(name, first)] = [name] := rfl
    refine .object (Members.nodup_insertAll (single ▸ List.nodup_singleton name)) ?_ fun m hm => ?_
    · -- Later members never come to stand before the first.
      rw [Members.head?_insertAll (List.cons_ne_nil _ _), single]
      exact fun h => unmarked (Option.some.inj h)
    · rcases Members.mem_insertAll hm with hm | hm
      · rw [List.mem_singleton] at hm
        exact hm ▸ item
      · exact more m hm
  | itemsEnd | membersEnd => exact fun _ h => nomatch h
  | nextItem _ _ _ item more =>
    intro d hd
    rcases List.mem_cons.mp hd with rfl | hd
    · exact item
    · exact more d hd
  | nextMember _ _ _ _ _ _ item more =>
    intro m hm
    rcases List.mem_cons.mp hm with rfl | hm
    · exact item
    · exact more m hm

end Grammar

namespace Document

/-- **Every document that is read is well-formed**: names are distinct in every object, no object has the mark in
front, numbers have literals of the grammar, and not too many arrays and objects are open at once. -/
theorem wellFormed_of_read {text : Bytes} {d : Document} (h : read text = .ok d) :
    d.WellFormed depthLimit := by
  obtain ⟨rest, phrase, -⟩ := read_ok_iff.mp h
  exact Grammar.wellFormed_of_phrase phrase

end Document
end Relabel
