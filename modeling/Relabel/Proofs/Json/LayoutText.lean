import Relabel.Json.Layout
import Relabel.Proofs.Json.Relabel
import Relabel.Proofs.Json.Writer

/-!
# A layout is a text of the standard

The round trip says that a layout is read back. That is not enough for other readers, who take the mark for a name
like any other, and it is not even true of a document that uncovers the mark. A layout is a text of the standard
all the same, with the document's members as they stand (`Document.text_relabelled`): the rules of the standard ask
nothing of names.
-/

namespace Relabel
namespace Layout

open Standard

variable {depth : Nat}

/-! ## Tokens -/

theorem blank_newLine (indent : Nat) : Blank (newLine indent) := by
  intro b hb
  rcases List.mem_cons.mp hb with rfl | hb
  · exact .inr (.inr (.inl rfl))
  · exact .inl (List.eq_of_mem_replicate hb)

theorem blank_space : Blank [Ascii.space] := by
  intro b hb
  exact .inl (List.mem_singleton.mp hb)

theorem quoted_ascii (text : String) : Quoted (Escape.quoted Escape.ascii text) text :=
  quoted_of_faithful Escape.ascii_faithful text

theorem lead_nameLead (name : String) : Lead (nameLead name) name := by
  have lead := Lead.mk (quoted_ascii name) blank_nil blank_space
  exact lead

/-! ## Documents -/

/-- At any indentation, the layout of a document is a text of the document. -/
def IsText (depth : Nat) (d : Document) : Prop := ∀ indent, Stretch depth (document indent d) (.value d)

/-- **Items and members stand on lines of their own.** A layout is written in the way that `Writes` describes, with
new lines in the places of its gaps; all that was said of texts written in that way holds of it. -/
theorem writes (indent : Nat) :
    Writes (document indent) nameLead (newLine indent) (moreItems indent) (moreMembers indent) where
  blank := blank_newLine indent
  led := lead_nameLead
  noItems := rfl
  nextItem item more := by simp only [moreItems, List.cons_append, List.append_assoc]
  noMembers := rfl
  nextMember name item more := by simp only [moreMembers, List.cons_append, List.append_assoc]

theorem isText_array {items : List Document} (h : ∀ item ∈ items, IsText depth item) :
    IsText (depth + 1) (.array items) := by
  intro indent
  cases items with
  | nil => exact .emptyArray blank_nil
  | cons item more =>
    have stretch := (writes (indent + 1)).array (blank_newLine indent) fun d hd => h d hd (indent + 1)
    simpa only [document, List.cons_append, List.append_assoc] using stretch

/-- The layout of an object is a text of it, whatever its names are. -/
theorem isText_object {members : Members} (h : ∀ m ∈ members, IsText depth m.2) :
    IsText (depth + 1) (.object members) := by
  intro indent
  cases members with
  | nil => exact .emptyObject blank_nil
  | cons m more =>
    obtain ⟨name, item⟩ := m
    have stretch := (writes (indent + 1)).object (blank_newLine indent) fun m hm => h m hm (indent + 1)
    simpa only [document, List.cons_append, List.append_assoc] using stretch

/-- The layout of a well-formed document is a text of it, at any indentation. The induction is on how it is
well-formed. -/
theorem isText_of_wellFormed {d : Document} (h : d.WellFormed depth) : IsText depth d := by
  induction h with
  | null => exact fun _ => .null
  | bool value =>
    cases value with
    | true => exact fun _ => .yes
    | false => exact fun _ => .no
  | number valid => exact fun _ => .number (numeral_literal valid)
  | string text => exact fun _ => .string (quoted_ascii text)
  | array _ ih => exact isText_array ih
  | object _ _ _ ih => exact isText_object ih

end Layout

namespace Document

variable {d d' : Document} {source target : String}

theorem text_layout (h : Layout.IsText depthLimit d) : Standard.Text depthLimit d.layout d := by
  have text := Standard.Text.mk Standard.blank_nil (h 0) Standard.blank_nil
  rw [List.append_nil, List.nil_append] at text
  exact text

/-- **The layout of a relabelled document is a text of it**, even if relabelling uncovered the mark. The document may
not be well-formed then, and its layout is not read as it; but its values are, and of names nothing is asked here. -/
theorem text_relabelled (h : d.WellFormed depthLimit) (differ : source ≠ target)
    (hr : d.relabel source target = (true, d')) : Standard.Text depthLimit d'.layout d' := by
  obtain ⟨members, rfl, there, rfl⟩ := relabel_true_iff.mp hr
  cases h with
  | object distinct _ values =>
    refine text_layout (Layout.isText_object fun m hm => ?_)
    obtain ⟨m', hm', same⟩ := Members.mem_relabel distinct there differ hm
    exact same ▸ Layout.isText_of_wellFormed (values m' hm')

end Document
end Relabel
