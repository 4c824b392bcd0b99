import Relabel.Json.Number

/-!
# Documents

A JSON document as a tree. An object is its list of members in the order in which they stand, because
that order is kept when the document is written again; numbers are kept as literals, for the same
reason.

`Member` lists are the ordered maps of this library. `Members.insert` is the one way in: a name that is
there already keeps its place and gets the new value, any other name goes to the end. A list built by
`insert` alone therefore has distinct names.
-/

namespace Relabel

/-- A JSON document. -/
inductive Document where
  | null
  /-- One of the words `true` and `false`. -/
  | bool (value : Bool)
  /-- A number, as its literal. -/
  | number (literal : Number)
  | string (text : String)
  | array (items : List Document)
  /-- Members in the order in which they stand. -/
  | object (members : List (String × Document))
  deriving Repr, BEq, Inhabited

/-- The members of an object, in order. -/
abbrev Members := List (String × Document)

namespace Members

/-- The names, in order. -/
def names (members : Members) : List String := members.map Prod.fst

/-- Whether a member has the name. -/
def contains (members : Members) (name : String) : Bool := members.any (·.1 == name)

/-- The value under a name. -/
def get? (members : Members) (name : String) : Option Document :=
  (members.find? (·.1 == name)).map Prod.snd

/-- The members with `value` under `name`: where the name stands if it is there already, and at the
end if it is not. -/
def insert : Members → String → Document → Members
  | [], name, value => [(name, value)]
  | (key, old) :: rest, name, value =>
    if key = name then (key, value) :: rest else (key, old) :: insert rest name value

end Members

namespace Document

/-- The document of a natural number. -/
def ofNat (n : Nat) : Document := .number (Number.ofNat n)

/-- The members of an object, and nothing for any other document. -/
def members? : Document → Option Members
  | .object members => some members
  | _ => none

/-- The value of a top-level member. -/
def get? (document : Document) (name : String) : Option Document :=
  document.members?.bind (·.get? name)

end Document
end Relabel
