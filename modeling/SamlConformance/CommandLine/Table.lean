import SamlConformance.Unicode.Width

/-!
# Drawn Tables

Rows of cells between lines, with round corners. A line of its own sets the header
apart from the rows. Each column is as wide as its widest line, with a blank at
both sides, and a row as high as its highest cell.

## Main definitions

* `Table.draw`: A table.
-/

namespace SamlConformance

namespace Table

/-- The lines of a cell. -/
def cellLines (cell : String) : List (List Char) :=
  cell.toList.splitOn '\n'

/-- The columns a cell takes. -/
def cellWidth (cell : String) : Nat :=
  ((cellLines cell).map Unicode.width).foldl max 0

/-- The widths of the columns, by rows of equal length. -/
def columnWidths (rows : List (List String)) : List Nat :=
  rows.foldl (fun widths row => List.zipWith max widths (row.map cellWidth))
    ((rows.headD []).map fun _ => 0)

/-- A line across the table. -/
def rule (left middle right : Char) (widths : List Nat) : String :=
  let bars := widths.map fun w => "".pushn '─' (w + 2)
  left.toString ++ String.intercalate middle.toString bars ++ right.toString ++ "\n"

/-- A line of a cell, filled up with blanks. -/
def filled (width : Nat) (line : List Char) : String :=
  String.ofList ([' '] ++ line ++ List.replicate (width - Unicode.width line + 1) ' ')

/-- One line of a row. -/
def rowLine (widths : List Nat) (cells : List (List (List Char))) (i : Nat) : String :=
  let parts := List.zipWith (fun w lines => filled w (lines[i]?.getD [])) widths cells
  "│" ++ String.intercalate "│" parts ++ "│\n"

/-- The lines of a row. -/
def rowLines (widths : List Nat) (row : List String) : String :=
  let cells := row.map cellLines
  let height := (cells.map List.length).foldl max 0
  String.join ((List.range height).map (rowLine widths cells))

/-- A table. -/
def draw (header : List String) (rows : List (List String)) : String :=
  let widths := columnWidths (header :: rows)
  rule '╭' '┬' '╮' widths ++ rowLines widths header ++ rule '├' '┼' '┤' widths ++
    String.join (rows.map (rowLines widths)) ++ rule '╰' '┴' '╯' widths

end Table

end SamlConformance
