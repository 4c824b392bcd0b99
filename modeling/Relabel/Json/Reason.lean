/-!
# Reasons

A reason is a text that says why something has no document. It may end in a place, as in `x at line 7 column
8`. A reason is told with its place in the usual spelling, and without it if the line is zero, since lines are
counted from one.
-/

namespace Relabel
namespace Reason

/-- The greatest line or column that is told. -/
def greatest : Nat := 0xffffffffffffffff

/-- The number whose digits, the last of them first, start a text, and what follows them. -/
def numberAtEnd? (reversed : List Char) : Option (Nat × List Char) :=
  let digits := (reversed.takeWhile Char.isDigit).reverse
  let value := digits.foldl (fun n c => n * 10 + (c.toNat - '0'.toNat)) 0
  if digits.isEmpty || greatest < value then none
  else some (value, reversed.dropWhile Char.isDigit)

/-- What precedes a word at the end of a text, both with the last character first. -/
def beforeWord? (word : String) (reversed : List Char) : Option (List Char) :=
  let lead := word.toList.reverse
  if lead.isPrefixOf reversed then some (reversed.drop lead.length) else none

/-- The text, the line and the column of a reason that ends in a place. -/
def split? (reason : String) : Option (String × Nat × Nat) := do
  let (column, rest) ← numberAtEnd? reason.toList.reverse
  let rest ← beforeWord? " column " rest
  let (line, rest) ← numberAtEnd? rest
  let rest ← beforeWord? " at line " rest
  return (String.ofList rest.reverse, line, column)

/-- A reason as it is told. -/
def shown (reason : String) : String :=
  match split? reason with
  | none => reason
  | some (text, line, column) =>
    if line = 0 then text
    else text ++ " at line " ++ toString line ++ " column " ++ toString column

end Reason
end Relabel
