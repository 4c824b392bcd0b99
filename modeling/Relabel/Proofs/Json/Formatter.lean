import Relabel.Json.Compact
import Relabel.Proofs.Json.Fragment

/-!
# What formatters write

A layout is defined as a function of the document and of how deep it stands in others. What is written into a file comes
about in another way: a serializer calls a formatter, which counts the arrays and objects that are open, and which has
one flag to tell it whether the array or object that ends has something in it. **Both are the same bytes**
(`Document.render?_eq`), and no callback fails.

The invariant is that a document leaves the count as it was (`Layout.writes_document`). About the flag there is none: a
word leaves it, an empty array takes it down and any other array puts it up, whatever it was in front of them. It need
not be known, because the end of an item puts it up in any case before it is looked at again, and the beginning of an
array takes it down. So what is written does not depend on the flag that a document finds, and the flag that it leaves
is forgotten by the array around it. Behind the first item it is up (`Layout.writes_moreItems`), and that is how the end
of an array finds it if there is an item at all.

`Compact.writes_document` is the same for the plain formatter, which has no state, and documents on one line.
-/

namespace Relabel

open Callback (Writes writes_write writes_pass)

variable {depth : Nat} {filled : Bool}

/-! ## Callbacks of an indented text -/

namespace Layout

/-- The spaces of one step. -/
def step : Bytes := List.replicate indentWidth Ascii.space

/-- The formatter of layouts. -/
def formatter : Formatter Indentation := .ascii (.indented step)

/-- A line begins with its line feed and one step for each array and object that is open. -/
theorem newLine_eq (depth : Nat) : newLine depth = Ascii.lineFeed :: Indentation.spaces step depth := by
  rw [newLine, Indentation.spaces, step, List.flatten_replicate_replicate, Nat.mul_comm]

/-- An array or object begins with its bracket, whatever was at hand before. -/
theorem writes_opens (bracket : UInt8) :
    Writes (Indentation.opens bracket) ⟨depth, filled⟩ [bracket] ⟨depth + 1, false⟩ := fun _ => rfl

/-- The first item begins on a line of its own. -/
theorem writes_first : Writes (Indentation.begins step true) ⟨depth, filled⟩ (newLine depth) ⟨depth, filled⟩ := by
  rw [newLine_eq]
  exact fun _ => rfl

/-- Any other item begins behind a comma. -/
theorem writes_next :
    Writes (Indentation.begins step false) ⟨depth, filled⟩ (Ascii.comma :: newLine depth) ⟨depth, filled⟩ := by
  rw [newLine_eq]
  exact fun _ => rfl

/-- The end of an item writes nothing, and puts the flag up. -/
theorem writes_fills : Writes Indentation.fills ⟨depth, filled⟩ [] ⟨depth, true⟩ := fun before => by
  rw [Indentation.fills, List.append_nil]

/-- An array or object with something in it ends on a line of its own. -/
theorem writes_closes (bracket : UInt8) :
    Writes (Indentation.closes step bracket) ⟨depth + 1, true⟩ (newLine depth ++ [bracket]) ⟨depth, true⟩ := by
  intro before
  rw [newLine_eq, ← List.append_assoc]
  rfl

/-- An empty one ends where it began. -/
theorem writes_closes_empty (bracket : UInt8) :
    Writes (Indentation.closes step bracket) ⟨depth + 1, false⟩ [bracket] ⟨depth, false⟩ := fun before => by
  simp only [Indentation.closes, Bool.false_eq_true, ↓reduceIte, List.append_nil]

/-! ## Arrays and objects -/

variable {filled' : Bool} {opening closing : UInt8} {inner item rest : Callback Indentation}
  {lead bytes more : Bytes}

/-- An empty array or object is its two brackets: nothing has put the flag up when the second one is written. -/
theorem writes_empty :
    Writes (Indentation.opens opening >=> Callback.pass >=> Indentation.closes step closing) ⟨depth, filled⟩
      [opening, closing] ⟨depth, false⟩ :=
  (writes_opens opening).andThen (writes_pass.andThen (writes_closes_empty closing))

/-- What is inside an array or object begins with the flag down, and is written one step further in. If it leaves the
flag up, the closing bracket is on a line of its own, at the depth of the opening one. -/
theorem writes_enclosed (h : Writes inner ⟨depth + 1, false⟩ bytes ⟨depth + 1, true⟩) :
    Writes (Indentation.opens opening >=> inner >=> Indentation.closes step closing) ⟨depth, filled⟩
      (opening :: bytes ++ newLine depth ++ [closing]) ⟨depth, true⟩ := by
  refine ((writes_opens opening).andThen (h.andThen (writes_closes closing))).of_eq ?_
  rw [List.singleton_append, List.cons_append, List.cons_append, List.append_assoc]

/-- Whatever flag an item leaves, the next one finds it up. -/
theorem writes_item (h : Writes item ⟨depth, filled⟩ bytes ⟨depth, filled'⟩)
    (others : Writes rest ⟨depth, true⟩ more ⟨depth, true⟩) :
    Writes (item >=> Indentation.fills >=> rest) ⟨depth, filled⟩ (bytes ++ more) ⟨depth, true⟩ :=
  h.andThen (writes_fills.andThen others)

/-- A member is its name, and its value as if it were an item. -/
theorem writes_member (name : String) (h : Writes item ⟨depth, filled⟩ bytes ⟨depth, filled'⟩)
    (others : Writes rest ⟨depth, true⟩ more ⟨depth, true⟩) :
    Writes (Serializer.string formatter name >=> formatter.endName >=> formatter.beginValue >=>
        item >=> Indentation.fills >=> rest)
      ⟨depth, filled⟩ (nameLead name ++ (bytes ++ more)) ⟨depth, true⟩ := by
  have quoted := (Fragment.spells_ascii (.indented step) ⟨depth, filled⟩).string name
  have colon : Writes formatter.beginValue ⟨depth, filled⟩ [Ascii.colon, Ascii.space] ⟨depth, filled⟩ := writes_write
  refine (quoted.andThen (writes_pass.andThen (colon.andThen (writes_item h others)))).of_eq ?_
  rw [nameLead, List.nil_append, List.append_assoc]

/-! ## Indented texts -/

mutual

/-- **A document is written as it is laid out**, at the depth that the formatter has counted, whatever the flag is.
The count is left as it was, and some flag is left, which no one looks at before it has been set again. The induction
is on the document; of the inner documents it is known that they are laid out one step further in, because the bracket
in front of them has raised the count. -/
theorem writes_document : ∀ (d : Document) (depth : Nat) (filled : Bool), ∃ filled',
    Writes (Serializer.document formatter d) ⟨depth, filled⟩ (document depth d) ⟨depth, filled'⟩
  | .null, _, filled => ⟨filled, writes_write⟩
  | .bool _, _, filled => ⟨filled, writes_write⟩
  | .number _, _, filled => ⟨filled, writes_write⟩
  | .string text, _, filled => ⟨filled, (Fragment.spells_ascii (.indented step) _).string text⟩
  | .array [], _, _ => ⟨false, writes_empty⟩
  | .array (item :: rest), depth, _ => by
    obtain ⟨_, first⟩ := writes_document item (depth + 1) false
    have items := writes_first.andThen (writes_item first (writes_moreItems rest (depth + 1)))
    refine ⟨true, (writes_enclosed items).of_eq ?_⟩
    simp only [document, List.cons_append, List.append_assoc]
  | .object [], _, _ => ⟨false, writes_empty⟩
  | .object ((name, item) :: rest), depth, _ => by
    obtain ⟨_, first⟩ := writes_document item (depth + 1) false
    have members := writes_first.andThen (writes_member name first (writes_moreMembers rest (depth + 1)))
    refine ⟨true, (writes_enclosed members).of_eq ?_⟩
    simp only [document, List.cons_append, List.append_assoc]

/-- Items behind the first one find the flag up, and leave it so. -/
theorem writes_moreItems : ∀ (items : List Document) (depth : Nat),
    Writes (Serializer.array formatter false items) ⟨depth, true⟩ (moreItems depth items) ⟨depth, true⟩
  | [], _ => writes_pass
  | item :: rest, depth => by
    obtain ⟨_, next⟩ := writes_document item depth true
    refine (writes_next.andThen (writes_item next (writes_moreItems rest depth))).of_eq ?_
    simp only [moreItems, List.cons_append, List.append_assoc]

/-- So do members behind the first one. -/
theorem writes_moreMembers : ∀ (members : List (String × Document)) (depth : Nat),
    Writes (Serializer.object formatter false members) ⟨depth, true⟩ (moreMembers depth members) ⟨depth, true⟩
  | [], _ => writes_pass
  | (name, item) :: rest, depth => by
    obtain ⟨_, next⟩ := writes_document item depth true
    refine (writes_next.andThen (writes_member name next (writes_moreMembers rest depth))).of_eq ?_
    simp only [moreMembers, List.cons_append, List.append_assoc]

end

end Layout

/-! ## Texts on one line -/

namespace Compact

theorem writes_first : Writes (Formatter.plain.beginItem true) () [] () := writes_write

theorem writes_next : Writes (Formatter.plain.beginItem false) () [Ascii.comma] () := writes_write

variable {item rest : Callback Unit} {bytes more : Bytes}

/-- An item ends with nothing behind it. -/
theorem writes_item (h : Writes item () bytes ()) (others : Writes rest () more ()) :
    Writes (item >=> Callback.pass >=> rest) () (bytes ++ more) () := h.andThen (writes_pass.andThen others)

/-- A member is its name, and its value as if it were an item. -/
theorem writes_member (name : String) (h : Writes item () bytes ()) (others : Writes rest () more ()) :
    Writes (Serializer.string .plain name >=> Callback.pass >=> Callback.write [Ascii.colon] >=>
        item >=> Callback.pass >=> rest)
      () (nameLead name ++ (bytes ++ more)) () := by
  have quoted := (Fragment.spells_plain ()).string name
  refine (quoted.andThen (writes_pass.andThen (writes_write.andThen (writes_item h others)))).of_eq ?_
  rw [nameLead, List.nil_append, List.append_assoc]

mutual

/-- **The plain formatter writes a document on one line.** There is nothing for it to keep in mind, so that the
induction needs nothing but the bytes. -/
theorem writes_document : ∀ d : Document, Writes (Serializer.document .plain d) () (document d) ()
  | .null => writes_write
  | .bool _ => writes_write
  | .number _ => writes_write
  | .string text => (Fragment.spells_plain _).string text
  | .array [] => writes_write.andThen (writes_pass.andThen writes_write)
  | .array (item :: rest) => by
    have items := writes_first.andThen (writes_item (writes_document item) (writes_moreItems rest))
    refine (writes_write.andThen (items.andThen writes_write)).of_eq ?_
    simp only [document, List.nil_append, List.cons_append, List.append_assoc]
  | .object [] => writes_write.andThen (writes_pass.andThen writes_write)
  | .object ((name, item) :: rest) => by
    have members := writes_first.andThen (writes_member name (writes_document item) (writes_moreMembers rest))
    refine (writes_write.andThen (members.andThen writes_write)).of_eq ?_
    simp only [document, List.nil_append, List.cons_append, List.append_assoc]

/-- Items behind the first one are written behind commas. -/
theorem writes_moreItems : ∀ items : List Document,
    Writes (Serializer.array .plain false items) () (moreItems items) ()
  | [] => writes_pass
  | item :: rest => by
    refine (writes_next.andThen (writes_item (writes_document item) (writes_moreItems rest))).of_eq ?_
    simp only [moreItems, List.nil_append, List.cons_append]

/-- So are members behind the first one. -/
theorem writes_moreMembers : ∀ members : List (String × Document),
    Writes (Serializer.object .plain false members) () (moreMembers members) ()
  | [] => writes_pass
  | (name, item) :: rest => by
    refine (writes_next.andThen (writes_member name (writes_document item) (writes_moreMembers rest))).of_eq ?_
    simp only [moreMembers, List.nil_append, List.cons_append, List.append_assoc]

end

end Compact

/-! ## Texts -/

namespace Document

/-- **What is written into a file is the layout.** No callback fails: all cuts are between characters, and nothing is
closed that is not open. So the formatter may be forgotten, and its counting with it: what is proved of layouts holds
of what a serializer has it write. -/
theorem render?_eq (d : Document) : d.render? = some d.layout := by
  obtain ⟨_, written⟩ := Layout.writes_document d 0 false
  exact written.fresh

/-- What is written into a message is the document on one line. -/
theorem line?_eq (d : Document) : d.line? = some d.compact := (Compact.writes_document d).fresh

end Document
end Relabel
