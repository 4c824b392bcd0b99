import Relabel.Proofs.Json.LayoutText
import Relabel.Proofs.Json.Unambiguous
import Relabel.Proofs.Json.Value
import Relabel.Proofs.Revision

/-!
# What a revision does to the value of a file

A file is looked at here the way any reader of the standard looks at it. What it stands for is the value of the one
document that its bytes are a text of; `Tree.RevisedTo` says that a revision goes well and what the new bytes stand
for then.

**Without the mark in front of an object, a revision keeps every value.** It is never refused, the value under the
old name comes to stand under the new one, and all other names keep theirs. This holds of any standard text with
the old name at its top level, whatever it repeats and however it spells its numbers.

**With the mark in front, what counts is what the reader takes the text for.** If an object with the mark is the
written form of a number, a number is written in its place; if it is not, the file is refused. So the value under
the new name need not be the one that was under the old name (`reviseFile_values_marked`).
-/

namespace Relabel
namespace Tree

open Document

variable {tree after : Tree} {path : Path} {id : NodeId} {members : Members} {d : Document} {v w : Value}

/-- The file `id` is revised, and its new bytes stand for `v`: they are a text of the standard, and whichever
document they are a text of has that value. -/
def RevisedTo (tree : Tree) (path : Path) (id : NodeId) (v : Value) : Prop :=
  ∃ new, tree.reviseFile path = (.ok (), tree.replaceContents id new) ∧
    (tree.replaceContents id new).content? id = some (.file new) ∧
    (∃ d, Standard.Text depthLimit new d) ∧ ∀ depth d, Standard.Text depth new d → d.value = v

theorem RevisedTo.unique (h : tree.RevisedTo path id v) (h' : tree.RevisedTo path id w) : v = w := by
  obtain ⟨new, hr, hc, ⟨d, text⟩, value⟩ := h
  obtain ⟨new', hr', hc', -, value'⟩ := h'
  rw [hr] at hr'
  obtain ⟨-, same⟩ := Prod.mk.inj hr'
  rw [same, hc'] at hc
  obtain rfl : new' = new := Content.file.inj (Option.some.inj hc)
  rw [← value _ d text, value' _ d text]

section

variable (hs : tree.stat path = .ok .file) (ho : tree.openFile path = .ok id)
  (text : Standard.Text depthLimit (tree.contents id) (.object members)) (there : sourceName ∈ members.names)

include hs ho text

theorem refused_of_resolve? (h : (Document.object members).resolve? = none) :
    ∃ fault, tree.reviseFile path = (.error (.invalidJson path fault), tree) := by
  cases hread : Document.read (tree.contents id) with
  | error fault => exact ⟨fault, reviseFile_of_refuses (.noDocument hs ho hread)⟩
  | ok d =>
    rw [read_text_iff text, h] at hread
    cases hread

include there

/-- A text that resolves to a document is revised to the relabelled value of the document: the new bytes are a text of
the relabelled document, as the standard reads it, and that has the relabelled value. -/
theorem revisedTo_of_resolve? (h : (Document.object members).resolve? = some d) :
    tree.RevisedTo path id (d.value.relabelled sourceName targetName) := by
  have hread := (read_text_iff text).mpr h
  have valid := wellFormed_of_read hread
  obtain ⟨ms, rfl, there'⟩ := exists_members_of_resolve? h there (by decide)
  have hrelabel : (Document.object ms).relabel sourceName targetName =
      (true, .object (Members.relabel ms sourceName targetName)) :=
    relabel_true_iff.mpr ⟨ms, rfl, there', rfl⟩
  have content := content?_of_openFile hs ho
  have revises : tree.Revises path id (tree.contents id) _ :=
    ⟨hs, ho, content, _, _, hread, hrelabel, rfl⟩
  have written := text_relabelled valid sourceName_ne_targetName hrelabel
  refine ⟨_, reviseFile_of_revises revises, content?_replaceContents content _, ⟨_, written⟩, ?_⟩
  intro depth d' text'
  rw [← written.unique text', value_relabelled valid sourceName_ne_targetName hrelabel]

/-- **A revision keeps the values of a file.** Without the mark in front of an object the new bytes stand for the
old value, relabelled. In general they stand for the relabelled value of what the text resolves to, and for nothing
else; a text that resolves to nothing is refused and stays. -/
theorem reviseFile_values :
    (Document.Unmarked (.object members) →
      tree.RevisedTo path id ((Document.object members).value.relabelled sourceName targetName)) ∧
    (∀ v, tree.RevisedTo path id v ↔
      ∃ d, (Document.object members).resolve? = some d ∧ v = d.value.relabelled sourceName targetName) ∧
    ((Document.object members).resolve? = none →
      ∃ fault, tree.reviseFile path = (.error (.invalidJson path fault), tree)) := by
  refine ⟨fun unmarked => ?_, fun v => ⟨fun revised => ?_, ?_⟩, refused_of_resolve? hs ho text⟩
  · obtain ⟨d, hd, same⟩ := exists_resolve? unmarked
    rw [← same]
    exact revisedTo_of_resolve? hs ho text there hd
  · cases hd : (Document.object members).resolve? with
    | none =>
      obtain ⟨fault, refused⟩ := refused_of_resolve? hs ho text hd
      obtain ⟨new, hr, -⟩ := revised
      rw [refused] at hr
      cases hr
    | some d => exact ⟨d, rfl, revised.unique (revisedTo_of_resolve? hs ho text there hd)⟩
  · rintro ⟨d, hd, rfl⟩
    exact revisedTo_of_resolve? hs ho text there hd

end

/-- A text with a repeated name and a number that the layout spells otherwise. -/
def spelled : Bytes := Ascii.bytes "\x7b\"with\":0, \"with\":[1E2]\x7d\n"

/-- The members of `spelled`, both of them. -/
def spelledMembers : Members :=
  [(sourceName, .number ⟨false, [Digit.ofByte 0x30], [], none⟩),
    (sourceName, .array [.number ⟨false, [Digit.ofByte 0x31], [], some ⟨false, [Digit.ofByte 0x32]⟩⟩])]

theorem text_spelled : Standard.Text depthLimit spelled (.object spelledMembers) := by
  have name : Standard.Lead _ sourceName :=
    .mk (Layout.quoted_ascii sourceName) Standard.blank_nil Standard.blank_nil
  have zero : Standard.Stretch 126 _ (.value (.number ⟨false, [0], [], none⟩)) :=
    .number (.positive .zero .none .none)
  have hundred : Standard.Stretch 125 _ (.value (.number ⟨false, [1], [], some ⟨false, [2]⟩⟩)) :=
    .number (.positive (.digits (by decide)) .none (.digits (.inr rfl) .none))
  have array := Standard.Stretch.array Standard.blank_nil hundred (.itemsEnd Standard.blank_nil)
  have others := Standard.Stretch.nextMember Standard.blank_nil Layout.blank_space name array
    (.membersEnd Standard.blank_nil)
  have object := Standard.Stretch.object Standard.blank_nil name zero others
  have newLine := Layout.blank_newLine 0
  have text := Standard.Text.mk Standard.blank_nil object newLine
  refine Eq.mpr (congrArg (fun bytes => Standard.Text depthLimit bytes _) ?_) text
  decide +kernel

theorem unmarked_spelled : Document.Unmarked (.object spelledMembers) := by
  refine .object (by decide) fun m hm => ?_
  rcases List.mem_pair.mp hm with rfl | rfl
  · exact .number _
  · refine .array fun item hitem => ?_
    rw [List.mem_singleton] at hitem
    exact hitem ▸ .number _

/-- The last value of a repeated name is the one that is kept, and a capital letter makes no difference. -/
theorem reviseFile_values_spelled :
    let path := Path.ofString "a"
    let tree := single spelled
    tree.stat path = .ok .file ∧ tree.openFile path = .ok 1 ∧
      Standard.Text depthLimit (tree.contents 1) (.object spelledMembers) ∧
      sourceName ∈ spelledMembers.names ∧ Document.Unmarked (.object spelledMembers) ∧
      tree.RevisedTo path 1 ((Document.object spelledMembers).value.relabelled sourceName targetName) := by
  intro path tree
  have hs : tree.stat path = .ok .file := by decide +kernel
  have ho : tree.openFile path = .ok 1 := by decide +kernel
  have there : sourceName ∈ spelledMembers.names := by decide
  exact ⟨hs, ho, text_spelled, there, unmarked_spelled,
    (reviseFile_values hs ho text_spelled there).1 unmarked_spelled⟩

/-- A text in which an object has the mark as its first name. -/
def markedText : Bytes := Ascii.bytes "\x7b\"with\":\x7b\"$serde_json::private::Number\":\"5\"\x7d\x7d"

/-- The members of `markedText`: under the old name, an object with one member. -/
def markedMembers : Members := [(sourceName, .object [(Reader.numberMark, .string "5")])]

theorem text_markedText : Standard.Text depthLimit markedText (.object markedMembers) := by
  have name : Standard.Lead _ sourceName :=
    .mk (Layout.quoted_ascii sourceName) Standard.blank_nil Standard.blank_nil
  have mark : Standard.Lead _ Reader.numberMark :=
    .mk (Layout.quoted_ascii Reader.numberMark) Standard.blank_nil Standard.blank_nil
  have five : Standard.Stretch 125 _ (.value (.string "5")) := .string (Layout.quoted_ascii "5")
  have inner := Standard.Stretch.object Standard.blank_nil mark five (.membersEnd Standard.blank_nil)
  have outer := Standard.Stretch.object Standard.blank_nil name inner (.membersEnd Standard.blank_nil)
  refine Eq.mpr (congrArg (fun bytes => Standard.Text depthLimit bytes _) ?_)
    (Standard.Text.mk Standard.blank_nil outer Standard.blank_nil)
  decide +kernel

/-- **A revision may change a value.** Here the value under the old name is an object with one member, and what
comes to stand under the new name is a number. -/
theorem reviseFile_values_marked :
    let path := Path.ofString "a"
    let tree := single markedText
    tree.stat path = .ok .file ∧ tree.openFile path = .ok 1 ∧
      Standard.Text depthLimit (tree.contents 1) (.object markedMembers) ∧
      sourceName ∈ markedMembers.names ∧
      tree.reviseFile path = (.ok (), single (Ascii.bytes "\x7b\n    \"expected\": 5\n\x7d")) ∧
      ¬ tree.RevisedTo path 1 ((Document.object markedMembers).value.relabelled sourceName targetName) := by
  intro path tree
  have hs : tree.stat path = .ok .file := by decide +kernel
  have ho : tree.openFile path = .ok 1 := by decide +kernel
  have there : sourceName ∈ markedMembers.names := by decide
  have resolved : (Document.object markedMembers).resolve? =
      some (.object [(sourceName, .number ⟨false, [5], [], none⟩)]) := by rfl
  refine ⟨hs, ho, text_markedText, there, by decide +kernel, fun revised => ?_⟩
  have same := revised.unique (revisedTo_of_resolve? hs ho text_markedText there resolved)
  have number := congrFun (Value.object.inj same) targetName
  cases number

end Tree
end Relabel
