/-!
# Pieces between separators

A run cut at every separator. There is one piece more than there are separators, and some pieces may be
empty; put together again with the separators between them, they are the run.
-/

namespace Relabel

/-- The pieces of a run between the separators in it. -/
def pieces {α : Type} [DecidableEq α] (separator : α) : List α → List (List α)
  | [] => [[]]
  | x :: rest =>
    if x = separator then [] :: pieces separator rest
    else
      match pieces separator rest with
      | [] => [[x]]
      | piece :: more => (x :: piece) :: more

end Relabel
