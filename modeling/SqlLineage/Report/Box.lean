import SqlLineage.Text.Lines
import SqlLineage.Text.Width

/-!
# Boxes

Rows of cells drawn in a box with round corners.  A column is as wide as its widest line and a row
as high as its highest cell; a rule stands below the header.
-/

namespace SqlLineage.Box

/-- The width of a cell: that of its widest line. -/
def cellWidth (cell : List Char) : Nat :=
  ((Text.splitLines cell).map Text.width).foldl max 0

/-- The widths of columns, for rows that all have a cell in each of them. -/
def columnWidths : List (List (List Char)) → List Nat
  | [] => []
  | [row] => row.map cellWidth
  | row :: rows => List.zipWith max (row.map cellWidth) (columnWidths rows)

/-- A horizontal rule: its left end, the crossing between columns, its right end. -/
def rule (left crossing right : Char) (widths : List Nat) : List Char :=
  left :: List.intercalate [crossing] (widths.map (fun width => List.replicate (width + 2) '─'))
    ++ [right]

/-- A line of a cell, filled up to the width of its column. -/
def padded (width : Nat) (line : List Char) : List Char :=
  ' ' :: line ++ List.replicate (width - Text.width line) ' ' ++ [' ']

/-- One line across all columns. -/
def bar (widths : List Nat) (cells : List (List Char)) : List Char :=
  '│' :: List.intercalate ['│'] (List.zipWith padded widths cells) ++ ['│']

/-- The lines of a row; a cell with fewer lines than others ends in empty ones. -/
def rowLines (widths : List Nat) (row : List (List Char)) : List (List Char) :=
  let cells := row.map Text.splitLines
  let height := (cells.map List.length).foldl max 0
  (List.range height).map (fun i => bar widths (cells.map (fun lines => lines[i]?.getD [])))

/-- The lines of a box. -/
def lines (header : List (List Char)) (rows : List (List (List Char))) : List (List Char) :=
  let widths := columnWidths (header :: rows)
  rule '╭' '┬' '╮' widths :: rowLines widths header
    ++ rule '├' '┼' '┤' widths :: rows.flatMap (rowLines widths)
    ++ [rule '╰' '┴' '╯' widths]

end SqlLineage.Box
