import Relabel.Json.Document

/-!
# Giving a member another name

`Document.relabel` moves the value of one top-level member of an object to another name and removes the
old name. When the new name is free, it takes the place of the old one. When it is taken, the value goes
where the new name stands and the old place is gone. A document that is no object, or has no such member,
is left alone, and the answer says so.

The members are rebuilt in one pass. At the old name a stand-in is put in under the new name, unless the
new name is somewhere already; at the end the moved value goes in under the new name, which by then has
its place. A name moved to itself counts as taken: its place is given up in the pass and the value comes
back at the end of the object.
-/

namespace Relabel

namespace Members

/-- One pass over members: the rebuilt members and the value last seen under the old name. -/
def rebuild (source target : String) (taken : Bool) :
    Members × Document → String × Document → Members × Document
  | (built, moved), (name, value) =>
    if name = source then
      (if taken then built else built.insert target .null, value)
    else (built.insert name value, moved)

/-- The members with the value under `source` moved to `target`. -/
def relabel (members : Members) (source target : String) : Members :=
  let (built, moved) :=
    members.foldl (rebuild source target (members.contains target)) ([], .null)
  built.insert target moved

end Members

namespace Document

/-- Moves the value of the top-level member `source` to the name `target`: whether there was such a
member, and the document afterwards. -/
def relabel (document : Document) (source target : String) : Bool × Document :=
  match document with
  | .object members =>
    if Members.contains members source then (true, .object (Members.relabel members source target))
    else (false, .object members)
  | other => (false, other)

end Document

/-- The name that is given up in every file. -/
def sourceName : String := "with"

/-- The name that takes its place. -/
def targetName : String := "expected"

end Relabel
