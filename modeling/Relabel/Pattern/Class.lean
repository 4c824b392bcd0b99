import Relabel.Pattern.Atom

/-!
# Reading classes

A class stands in square brackets. A circumflex behind the opening bracket negates it; hyphens behind that, or
a closing bracket, stand for themselves. Two characters with a hyphen between them are a range. Classes can
stand in classes, and two of the signs `&`, `-` or `~` join what is before them to what is behind.
-/

namespace Relabel
namespace Pattern

/-- The names of the classes of ASCII. -/
def classNames : List String :=
  ["alnum", "alpha", "ascii", "blank", "cntrl", "digit", "graph", "lower", "print", "punct", "space",
    "upper", "word", "xdigit"]

/-- The next character of a text, seen past blanks and one hash where blanks are skipped. -/
def peek? (extended : Bool) (text : List Char) : Option Char :=
  if extended then
    let rest := match text.dropWhile CharSet.blank.contains with
      | '#' :: rest => rest.dropWhile CharSet.blank.contains
      | rest => rest
    rest.head?.or text.head?
  else text.head?

/-- A text that is not empty. -/
def nonempty? (text : List Char) : Option (List Char) := if text.isEmpty then none else some text

/-- One of the smallest parts, in a class. -/
def readMember (extended : Bool) : List Char → Option (Atom × List Char)
  | [] => none
  | '\\' :: rest => escaped extended rest
  | c :: rest => verbatim c rest

/-- What an atom means in a class, if it can stand in one. -/
def setOf? : Atom → Option ClassSet
  | .letter letter => some (.letter letter)
  | .kind negated => some (.kind negated)
  | .dot | .anchor | .wordEnd => none

/-- The range between two atoms, which have to be letters in their order. -/
def range? : Atom → Atom → Option ClassSet
  | .letter first, .letter last => if first.char ≤ last.char then some (.range first last) else none
  | _, _ => none

/-- A character or a range. -/
def readRange (extended : Bool) (text : List Char) : Option (ClassSet × List Char) := do
  let (first, rest) ← readMember extended text
  match skip extended rest with
  | [] => none
  | '-' :: behind =>
    if peek? extended behind = some ']' || peek? extended behind = some '-' then
      return (← setOf? first, '-' :: behind)
    else
      let (last, rest) ← readMember extended (skip extended behind)
      return (← range? first last, rest)
  | rest => return (← setOf? first, rest)

/-- A class of ASCII, behind its opening bracket. -/
def readNamed? : List Char → Option (ClassSet × List Char)
  | ':' :: text =>
    let (negated, text) := match text with
      | '^' :: text => (true, text)
      | text => (false, text)
    match text.dropWhile (· != ':') with
    | ':' :: ']' :: rest =>
      if classNames.contains (String.ofList (text.takeWhile (· != ':'))) then
        some (.named negated, rest)
      else none
    | _ => none
  | _ => none

/-- The hyphens at the start of a class, which have to be followed by something. -/
def readHyphens (extended : Bool) : Nat → List Char → Option (List ClassSet × List Char)
  | 0, _ => none
  | budget + 1, text =>
    match text with
    | '-' :: rest => do
      let (hyphens, rest) ← readHyphens extended budget (← nonempty? (skip extended rest))
      return (.letter ⟨'-', false⟩ :: hyphens, rest)
    | text => some ([], text)

/-- The start of a class, behind its opening bracket: whether it is negated, the characters that stand for
themselves there, and the rest. -/
def readStart (extended : Bool) (text : List Char) :
    Option (Bool × List ClassSet × List Char) := do
  let text ← nonempty? (skip extended text)
  let (negated, text) ← match text with
    | '^' :: rest => (nonempty? (skip extended rest)).map (true, ·)
    | text => some (false, text)
  let (hyphens, text) ← readHyphens extended (text.length + 1) text
  match hyphens, text with
  | [], ']' :: rest => return (negated, [.letter ⟨']', false⟩], ← nonempty? (skip extended rest))
  | hyphens, text => return (negated, hyphens, text)

/-- What is joined to something read before by an operator, if there is one. -/
def joinedTo (before : Option ClassSet) (sets : List ClassSet) : ClassSet :=
  match before with
  | some left => .joined left (.ofList sets)
  | none => .ofList sets

/-- What stands in a class up to its closing bracket, and the rest behind it. -/
def readSet (extended : Bool) :
    Nat → Option ClassSet → List ClassSet → List Char → Option (ClassSet × List Char)
  | 0, _, _, _ => none
  | budget + 1, before, sets, text =>
    match skip extended text with
    | [] => none
    | ']' :: rest => some (joinedTo before sets, rest)
    | '[' :: rest =>
      match readNamed? rest with
      | some (named, rest) => readSet extended budget before (sets ++ [named]) rest
      | none => do
        let (negated, first, rest) ← readStart extended rest
        let (set, rest) ← readSet extended budget none first rest
        readSet extended budget before (sets ++ [.nested negated set]) rest
    | '&' :: '&' :: rest => readSet extended budget (some (joinedTo before sets)) [] rest
    | '-' :: '-' :: rest => readSet extended budget (some (joinedTo before sets)) [] rest
    | '~' :: '~' :: rest => readSet extended budget (some (joinedTo before sets)) [] rest
    | text => do
      let (set, rest) ← readRange extended text
      readSet extended budget before (sets ++ [set]) rest

/-- A class, behind its opening bracket. -/
def readClass (extended : Bool) (text : List Char) : Option (Pattern × List Char) := do
  let (negated, first, rest) ← readStart extended text
  let (set, rest) ← readSet extended (rest.length + 1) none first rest
  return (.bracketed negated set, rest)

end Pattern
end Relabel
