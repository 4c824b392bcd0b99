/-!
# Similar words

How alike two words are, as a number between zero and one: letters that both words have at about the same
place are *paired*, each at most once, and pairs that stand in another order in the two words count half. Of
some candidates the likeliest is suggested for a word that was probably meant to be one of them, if it is
alike enough.
-/

namespace Relabel
namespace Similarity

/-- Pairs a letter with the first free equal letter whose index, counted from `index`, lies from `low` up to
but not including `high`. -/
def pairLetter (letter : Char) (low high index : Nat) :
    List (Char × Bool) → Option (List (Char × Bool))
  | [] => none
  | (other, paired) :: rest =>
    if low ≤ index && index < high && letter = other && !paired then some ((other, true) :: rest)
    else (pairLetter letter low high (index + 1) rest).map ((other, paired) :: ·)

/-- Pairs the letters of a word, the first of which has the given index, with those of another word at most
`reach` places away: the paired letters of the first word, and the other word with its pairs. -/
def pairLetters (reach index : Nat) :
    List Char → List (Char × Bool) → List Char × List (Char × Bool)
  | [], other => ([], other)
  | letter :: rest, other =>
    match pairLetter letter (index - reach) (index + reach + 1) 0 other with
    | some other =>
      let (paired, other) := pairLetters reach (index + 1) rest other
      (letter :: paired, other)
    | none => pairLetters reach (index + 1) rest other

/-- How alike two words are. -/
def alike (word other : List Char) : Float :=
  if word.isEmpty && other.isEmpty then 1.0
  else
    let reach := max word.length other.length / 2 - 1
    let (paired, marked) := pairLetters reach 0 word (other.map (·, false))
    let matching := (marked.filter Prod.snd).map Prod.fst
    let pairs := paired.length
    let crossed := (List.zipWith (fun a b : Char => a != b) paired matching).count true / 2
    if pairs = 0 then 0.0
    else
      (pairs.toFloat / word.length.toFloat + pairs.toFloat / other.length.toFloat +
        (pairs - crossed).toFloat / pairs.toFloat) / 3.0

/-- How alike a suggestion must be to what was written. -/
def threshold : Float := 0.7

/-- The candidate most alike to a word, if it is alike enough; the last of several that are equally
alike. -/
def suggest? (word : String) (candidates : List String) : Option String :=
  let score (candidate : String) := alike word.toList candidate.toList
  candidates.foldl
    (fun best candidate =>
      if score candidate > threshold then
        match best with
        | some earlier => if score earlier > score candidate then best else some candidate
        | none => some candidate
      else best)
    none

end Similarity
end Relabel
