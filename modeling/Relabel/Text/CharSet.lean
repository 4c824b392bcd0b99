/-!
# Sets of characters

A set of characters is the ascending list of the codes at which membership changes: the first of them is the
first member, the next one the first code that is no member any more, and so on. A range costs two numbers,
whatever its length, and the search for a code stops as soon as it has been passed.
-/

namespace Relabel

/-- A set of characters, by the codes at which membership changes. -/
structure CharSet where
  /-- The codes at which membership changes, ascending. -/
  turns : List Nat
  deriving Repr

namespace CharSet

/-- Whether a code is a member, membership before the first of the turns being `inside`. -/
def holdsFrom (inside : Bool) (code : Nat) : List Nat → Bool
  | [] => inside
  | turn :: rest => if code < turn then inside else holdsFrom (!inside) code rest

/-- Whether a character is a member. -/
def contains (set : CharSet) (c : Char) : Bool := holdsFrom false c.toNat set.turns

/-- The set of the characters of some ranges, given by first and last code and ascending. -/
def ofRanges (ranges : List (Nat × Nat)) : CharSet :=
  ⟨ranges.flatMap fun (first, last) => [first, last + 1]⟩

/-- The set of the characters with some codes, which ascend and have gaps between them. -/
def ofCodes (codes : List Nat) : CharSet := ofRanges (codes.map fun code => (code, code))

/-- The blanks of any script, line ends among them. -/
def blank : CharSet :=
  ofRanges [(0x9, 0xd), (0x20, 0x20), (0x85, 0x85), (0xa0, 0xa0), (0x1680, 0x1680),
    (0x2000, 0x200a), (0x2028, 0x2029), (0x202f, 0x202f), (0x205f, 0x205f), (0x3000, 0x3000)]

end CharSet
end Relabel
