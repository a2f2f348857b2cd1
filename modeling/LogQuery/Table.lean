import LogQuery.Text.Substring
import LogQuery.Text.Columns

/-!
# Table — tables of text with lines around their cells

A table has a row of titles and further rows with a cell for each title. A cell may have several
lines. Every column is as wide as its widest line, with a blank at either side.

* `Table.text` draws a table.
-/

namespace LogQuery

/-- A table: the titles of its columns, and its rows. -/
structure Table where
  titles : List String
  rows : List (List String)

namespace Table

/-- The lines of a cell. -/
def cellLines (cell : String) : List String := Text.splitAt '\n' cell

/-- The columns that a cell takes on a terminal. -/
def cellWidth (cell : String) : Nat := ((cellLines cell).map Text.columns).foldl max 0

/-- The width of each column: that of its widest cell. -/
def widths (t : Table) : List Nat :=
  t.rows.foldl (fun ws row => List.zipWith max ws (row.map cellWidth)) (t.titles.map cellWidth)

/-- A text with blanks up to a width, and one more at either side. -/
def padded (width : Nat) (s : String) : String :=
  " " ++ s ++ String.ofList (List.replicate (width + 1 - Text.columns s) ' ')

/-- The marks of a horizontal line: at its left end, along it, between columns, at its right end. -/
structure Rule where
  left : String
  along : Char
  between : String
  right : String

/-- The line above a table. -/
def topRule : Rule := ⟨"┌", '─', "┬", "┐"⟩

/-- The line below the titles. -/
def titleRule : Rule := ⟨"╞", '═', "╪", "╡"⟩

/-- The line between two rows. -/
def rowRule : Rule := ⟨"├", '╌', "┼", "┤"⟩

/-- The line below a table. -/
def bottomRule : Rule := ⟨"└", '─', "┴", "┘"⟩

/-- Draw a horizontal line over columns of the given widths. -/
def Rule.draw (r : Rule) (widths : List Nat) : String :=
  let parts := widths.map fun w => String.ofList (List.replicate (w + 2) r.along)
  r.left ++ String.intercalate r.between parts ++ r.right

/-- Draw a row; it has as many lines as its highest cell. -/
def drawRow (widths : List Nat) (row : List String) : List String :=
  let cells := row.map cellLines
  let height := (cells.map List.length).foldl max 0
  (List.range height).map fun i =>
    let parts := List.zipWith (fun w lines => padded w (lines[i]?.getD "")) widths cells
    "│" ++ String.intercalate "┆" parts ++ "│"

/-- Draw rows with lines between them. -/
def drawRows (widths : List Nat) : List (List String) → List String
  | [] => []
  | [row] => drawRow widths row
  | row :: rest => drawRow widths row ++ rowRule.draw widths :: drawRows widths rest

/-- The lines of a table. -/
def lines (t : Table) : List String :=
  let ws := t.widths
  topRule.draw ws :: drawRow ws t.titles ++ titleRule.draw ws :: drawRows ws t.rows ++
    [bottomRule.draw ws]

/-- A table as text, without the end of the last line. -/
def text (t : Table) : String := String.intercalate "\n" t.lines

end Table

end LogQuery
