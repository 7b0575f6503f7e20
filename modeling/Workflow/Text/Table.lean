import Workflow.Text.Search
import Workflow.Text.Width

/-!
# Tables

A table with a header, drawn with lines around it, below the header and between its columns. A
column is as wide as the widest line in it, with a space on either side; a cell of several lines
takes several rows.

## Main definitions

* `Workflow.Text.Table`, `Workflow.Text.Table.lines` — tables and their drawings.
-/

namespace Workflow.Text

/-- A table; every row has as many cells as the header. -/
structure Table where
  header : List String
  rows : List (List String)

namespace Table

/-- The lines of a cell. -/
def cellLines (cell : String) : List String := pieces cell "\n"

/-- The columns that a cell takes. -/
def cellWidth (cell : String) : Nat := ((cellLines cell).map width).foldl max 1

/-- The widths of the columns of the table. -/
def columnWidths (t : Table) : List Nat :=
  t.rows.foldl (fun widths row => List.zipWith max widths (row.map cellWidth))
    (t.header.map cellWidth)

/-- A line of a cell with spaces behind it up to a width. -/
def padTo (w : Nat) (line : String) : String :=
  String.ofList (line.toList ++ List.replicate (w - width line) ' ')

/-- A line across the table: its left end, what fills it, what crosses it and its right end. -/
def ruleLine (widths : List Nat) (left fill cross right : Char) : String :=
  let fills := widths.map fun w => List.replicate (w + 2) fill
  String.ofList (left :: List.intercalate [cross] fills ++ [right])

/-- The lines of a row. -/
def rowLines (widths : List Nat) (row : List String) : List String :=
  let cells := row.map cellLines
  let height := (cells.map List.length).foldl max 1
  (List.range height).map fun i =>
    "│" ++ "┆".intercalate (List.zipWith (fun w cell => " " ++ padTo w ((cell[i]?).getD "") ++ " ")
      widths cells) ++ "│"

/-- The drawing of a table. -/
def lines (t : Table) : List String :=
  let widths := t.columnWidths
  [ruleLine widths '┌' '─' '┬' '┐'] ++ rowLines widths t.header ++
    [ruleLine widths '╞' '═' '╪' '╡'] ++ t.rows.flatMap (rowLines widths) ++
    [ruleLine widths '└' '─' '┴' '┘']

end Table

end Workflow.Text
