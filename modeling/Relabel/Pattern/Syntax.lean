/-!
# Patterns

Regular expressions, as far as it matters whether a text is one that can be used. So the tree of a pattern
keeps what can make it unusable, which is the letters, the classes and the flags, and does not tell apart what
cannot: how often something is repeated, or which end of a line an anchor stands for.
-/

namespace Relabel

/-- A flag that changes the meaning of a pattern from some point on. -/
inductive Flag where
  /-- Letters match in either case. -/
  | caseless
  /-- Anchors match at every line. -/
  | multiLine
  /-- The dot matches line feeds, too. -/
  | dotAll
  /-- Repetitions are as short as possible. -/
  | swapGreed
  /-- Characters are matched, not bytes. -/
  | unicode
  /-- Carriage returns end lines, too. -/
  | carriageReturn
  /-- Blanks and comments in the pattern are skipped. -/
  | extended
  deriving DecidableEq, Repr

/-- Flags that are switched on or off. -/
abbrev Switches := List (Flag × Bool)

/-- The state to which a flag is switched, if it is. -/
def Switches.state? (switches : Switches) (flag : Flag) : Option Bool :=
  (switches.find? (·.1 = flag)).map Prod.snd

/-- A character that stands for itself. -/
structure Letter where
  char : Char
  /-- Whether it was written as the two digits of a byte. -/
  isByte : Bool
  deriving DecidableEq, Repr

/-- The smallest parts of a pattern, some of which can stand in a class, too. -/
inductive Atom where
  /-- A character that stands for itself. -/
  | letter (letter : Letter)
  /-- Any character. -/
  | dot
  /-- An end of a line or of the text. -/
  | anchor
  /-- An end of a word, or a place that is none. -/
  | wordEnd
  /-- The digits, the blanks or the characters of words, or all but those. -/
  | kind (negated : Bool)
  deriving DecidableEq, Repr

/-- What stands in a class. -/
inductive ClassSet where
  | empty
  /-- A character. -/
  | letter (letter : Letter)
  /-- The characters from one to another. -/
  | range (first last : Letter)
  /-- A class of ASCII, by its name, or all but that. -/
  | named (negated : Bool)
  /-- The digits, the blanks or the characters of words, or all but those. -/
  | kind (negated : Bool)
  | nested (negated : Bool) (set : ClassSet)
  /-- Several things, any of which matches. -/
  | union (sets : List ClassSet)
  /-- Two things, joined by an operator. -/
  | joined (left right : ClassSet)
  deriving Repr

/-- A pattern. -/
inductive Pattern where
  | empty
  /-- Flags that are switched from here on. -/
  | flags (switches : Switches)
  | atom (atom : Atom)
  /-- A class. -/
  | bracketed (negated : Bool) (set : ClassSet)
  | repetition (pattern : Pattern)
  /-- A group, in which flags are switched. -/
  | group (switches : Switches) (pattern : Pattern)
  | alternation (patterns : List Pattern)
  /-- Several patterns, one after the other. -/
  | sequence (patterns : List Pattern)
  deriving Repr

namespace ClassSet

/-- The set of several things: one alone stands for itself. -/
def ofList : List ClassSet → ClassSet
  | [] => .empty
  | [set] => set
  | sets => .union sets

mutual
/-- How deep a set nests. -/
def depth : ClassSet → Nat
  | .nested _ set => set.depth + 1
  | .union sets => depthOfList sets + 1
  | .joined left right => max left.depth right.depth + 1
  | .empty | .letter _ | .range _ _ | .named _ | .kind _ => 0
/-- How deep the deepest of some sets nests. -/
def depthOfList : List ClassSet → Nat
  | [] => 0
  | set :: rest => max set.depth (depthOfList rest)
end

end ClassSet

namespace Pattern

/-- The sequence of several patterns: one alone stands for itself. -/
def ofSequence : List Pattern → Pattern
  | [] => .empty
  | [pattern] => pattern
  | patterns => .sequence patterns

/-- The choice between several patterns: one alone stands for itself. -/
def ofChoices : List Pattern → Pattern
  | [] => .empty
  | [pattern] => pattern
  | patterns => .alternation patterns

mutual
/-- How deep a pattern nests. -/
def depth : Pattern → Nat
  | .bracketed _ set => set.depth + 1
  | .repetition pattern => pattern.depth + 1
  | .group _ pattern => pattern.depth + 1
  | .alternation patterns => depthOfList patterns + 1
  | .sequence patterns => depthOfList patterns + 1
  | .empty | .flags _ | .atom _ => 0
/-- How deep the deepest of some patterns nests. -/
def depthOfList : List Pattern → Nat
  | [] => 0
  | pattern :: rest => max pattern.depth (depthOfList rest)
end

/-- Whether a repetition can follow a pattern: there has to be something to repeat. -/
def isRepeatable : Pattern → Bool
  | .empty | .flags _ => false
  | _ => true

end Pattern
end Relabel
