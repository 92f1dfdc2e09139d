import FleetScore.Console.Width

/-!
# Tables for people

A table is a header and rows of cells.  Every column is as wide as its widest cell, a
cell starts at the left of its column, and one blank stands on either side.  There is a
frame with round corners, and one rule, below the header.

A cell may have several lines.  A row is then as high as its highest cell, and shorter
cells leave the rest empty.
-/

namespace FleetScore
namespace Console

/-- A table; every row has as many cells as the header. -/
structure Table where
  header : List String
  rows : List (List String)

namespace Table

/-- The lines of a cell. -/
def cellLines (cell : String) : List String := cell.splitOn "\n"

/-- The width of a cell: that of its widest line. -/
def cellWidth (cell : String) : Nat := ((cellLines cell).map textWidth).foldl max 0

/-- The height of a row: that of its highest cell. -/
def rowHeight (row : List String) : Nat :=
  (row.map fun cell => (cellLines cell).length).foldl max 0

/-- The widths of the columns. -/
def columnWidths (t : Table) : List Nat :=
  t.rows.foldl (fun widths row => List.zipWith (fun w cell => max w (cellWidth cell)) widths row)
    (t.header.map cellWidth)

/-- A text filled with blanks up to a width, and a blank on either side. -/
def padded (width : Nat) (text : String) : String :=
  " " ++ text ++ String.ofList (List.replicate (width - textWidth text) ' ') ++ " "

/-- A rule across the table. -/
def rule (left middle right : String) (widths : List Nat) : String :=
  left ++ String.intercalate middle
    (widths.map fun w => String.ofList (List.replicate (w + 2) '─')) ++ right

/-- One of the lines of a row. -/
def rowLine (widths : List Nat) (row : List String) (n : Nat) : String :=
  "│" ++ String.intercalate "│"
    (List.zipWith (fun w cell => padded w ((cellLines cell).getD n "")) widths row) ++ "│"

/-- The lines of a row. -/
def rowLines (widths : List Nat) (row : List String) : List String :=
  (List.range (rowHeight row)).map (rowLine widths row)

/-- The lines of a table. -/
def lines (t : Table) : List String :=
  let widths := t.columnWidths
  rule "╭" "┬" "╮" widths :: rowLines widths t.header
    ++ rule "├" "┼" "┤" widths :: t.rows.flatMap (rowLines widths)
    ++ [rule "╰" "┴" "╯" widths]

end Table
end Console
end FleetScore
