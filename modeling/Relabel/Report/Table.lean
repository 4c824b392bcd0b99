import Relabel.Text.Pieces
import Relabel.Text.Width

/-!
# Tables in plain text

A table is drawn with `+`, `-` and `|`: a rule above, below and between the rows, and a blank on either side of
each cell. A column is as wide as its widest line. A cell may have several lines; its row is as high as its
highest cell, and shorter cells are filled up from below. Text stands to the left.
-/

namespace Relabel
namespace Table

/-- A line of a cell with the number of columns it takes. -/
structure CellLine where
  text : String
  /-- The columns it takes. -/
  width : Nat
  deriving DecidableEq, Repr

/-- A cell: its lines, of which there is at least one. -/
abbrev Cell := List CellLine

/-- The cell of a text. -/
def cell (text : String) : Cell :=
  (pieces '\n' text.toList).map fun line => ⟨String.ofList line, Width.ofText (String.ofList line)⟩

/-- The columns that a cell takes. -/
def cellWidth (cell : Cell) : Nat := cell.foldl (fun width line => max width line.width) 0

/-- The widths of the columns of some rows with the same number of cells. -/
def widths (rows : List (List Cell)) : List Nat :=
  rows.foldl
    (fun widths row =>
      match widths with
      | [] => row.map cellWidth
      | widths => List.zipWith max widths (row.map cellWidth))
    []

/-- A run of one character. -/
def run (c : Char) (count : Nat) : String := String.ofList (List.replicate count c)

/-- The rule between rows. -/
def rule (widths : List Nat) : String :=
  "+" ++ String.join (widths.map fun width => run '-' (width + 2) ++ "+")

/-- One line of a cell, filled up to the width of its column. -/
def paddedLine (width : Nat) (line : CellLine) : String :=
  " " ++ line.text ++ run ' ' (width - line.width) ++ " |"

/-- The line with a given number of a row. -/
def rowLine (widths : List Nat) (row : List Cell) (number : Nat) : String :=
  "|" ++ String.join
    (List.zipWith (fun width cell => paddedLine width (cell.getD number ⟨"", 0⟩)) widths row)

/-- The lines of a row. -/
def rowLines (widths : List Nat) (row : List Cell) : List String :=
  let height := row.foldl (fun height cell => max height cell.length) 1
  (List.range height).map (rowLine widths row)

/-- The lines of a table with the given rows, the first of which is its head. -/
def lines (rows : List (List String)) : List String :=
  let cells := rows.map (List.map cell)
  let widths := widths cells
  rule widths :: cells.flatMap fun row => rowLines widths row ++ [rule widths]

end Table
end Relabel
