import Relabel.Pattern.Reader

/-!
# Which patterns can be used

Patterns are matched by a machine that knows characters by their codes alone and steps through a text byte by
byte. So, as long as characters are matched, no pattern can be used that asks for the other case of a letter,
for the digits, blanks or letters of any script, or for the ends of words. Where bytes are matched those are
the ones of ASCII, but nothing may match a part of a character: neither a byte beyond ASCII, nor the dot, nor
a class that is negated.
-/

namespace Relabel
namespace Pattern

/-- The flags that decide whether a pattern can be used. -/
structure Manner where
  /-- Whether characters are matched, not bytes. -/
  unicode : Bool
  /-- Whether letters match in either case. -/
  caseless : Bool
  deriving DecidableEq, Repr

namespace Manner

/-- The flags at the start of a pattern. -/
def start : Manner := ⟨true, false⟩

/-- The flags after some have been switched. -/
def switch (manner : Manner) (switches : Switches) : Manner where
  unicode := (switches.state? .unicode).getD manner.unicode
  caseless := (switches.state? .caseless).getD manner.caseless

/-- Whether the other case of a letter is asked for that has to be known by its code. -/
def folds (manner : Manner) : Bool := manner.unicode && manner.caseless

/-- Whether a letter can be matched. -/
def admits (manner : Manner) (letter : Letter) : Bool :=
  !manner.folds && (manner.unicode || !letter.isByte || letter.char.toNat ≤ 0x7f)

/-- Whether a letter can be matched by a class. -/
def admitsInClass (manner : Manner) (letter : Letter) : Bool :=
  !manner.folds && (manner.unicode || letter.char.toNat ≤ 0x7f)

/-- Whether a class of ASCII can be matched. -/
def admitsNamed (manner : Manner) (negated : Bool) : Bool :=
  !manner.folds && (manner.unicode || !negated)

/-- Whether the digits, blanks or characters of words can be matched. -/
def admitsKind (manner : Manner) (negated : Bool) : Bool := !manner.unicode && !negated

/-- Whether an atom can be matched. -/
def admitsAtom (manner : Manner) : Atom → Bool
  | .letter letter => manner.admits letter
  | .dot => manner.unicode
  | .anchor => true
  | .wordEnd => !manner.unicode
  | .kind negated => manner.admitsKind negated

end Manner

mutual
/-- Whether everything in a class can be matched. -/
def admitsSet (manner : Manner) : ClassSet → Bool
  | .empty => true
  | .letter letter => manner.admitsInClass letter
  | .range first last => manner.admitsInClass first && manner.admitsInClass last
  | .named negated => manner.admitsNamed negated
  | .kind negated => manner.admitsKind negated
  | .nested negated set => (manner.unicode || !negated) && admitsSet manner set
  | .union sets => admitsSets manner sets
  | .joined left right => admitsSet manner left && admitsSet manner right
/-- Whether everything in some classes can be matched. -/
def admitsSets (manner : Manner) : List ClassSet → Bool
  | [] => true
  | set :: rest => admitsSet manner set && admitsSets manner rest
end

mutual
/-- The flags behind a pattern, if all of it can be matched. -/
def after? (manner : Manner) : Pattern → Option Manner
  | .empty => some manner
  | .flags switches => some (manner.switch switches)
  | .atom part => if manner.admitsAtom part then some manner else none
  | .bracketed negated set =>
    if (manner.unicode || !negated) && admitsSet manner set then some manner else none
  | .repetition pattern => after? manner pattern
  | .group switches pattern => (after? (manner.switch switches) pattern).map fun _ => manner
  | .alternation patterns => afterAll? manner patterns
  | .sequence patterns => afterAll? manner patterns
/-- The flags behind some patterns, if all of them can be matched. -/
def afterAll? (manner : Manner) : List Pattern → Option Manner
  | [] => some manner
  | pattern :: rest =>
    match after? manner pattern with
    | some manner => afterAll? manner rest
    | none => none
end

/-- Whether a text is a pattern that can be used. -/
def isUsable (text : List Char) : Bool := ((ofText? text).bind (after? .start)).isSome

end Pattern
end Relabel
