import ClusterBilling.Text.Blank
import ClusterBilling.Text.Width

/-!
# Tables

A table has a row of titles and rows of cells below it, framed by rules above, below the titles and
at the end. Every column is as wide as its widest line on a terminal, so that every line of the
table takes the same number of columns. A cell of several lines makes its row as high; the others
of the row are empty from their last line on.
-/

namespace ClusterBilling.Report

/-- Where the text of a cell stands in its column. -/
inductive Alignment
  | left
  | right
deriving DecidableEq, Repr

/-- A cell, as the lines of its text. -/
structure Cell where
  lines : List String
  alignment : Alignment

namespace Cell

def left (text : String) : Cell := ⟨Text.lines text, .left⟩

def right (text : String) : Cell := ⟨Text.lines text, .right⟩

/-- The columns the cell needs. -/
def width (cell : Cell) : Nat := (cell.lines.map Text.width).foldl max 0

/-- One line of the cell, filled up to the width of its column. -/
def line (cell : Cell) (width index : Nat) : String :=
  let text := cell.lines.getD index ""
  let fill := String.ofList (List.replicate (width - Text.width text) ' ')
  match cell.alignment with
  | .left => text ++ fill
  | .right => fill ++ text

end Cell

abbrev Row := List Cell

/-- The lines a row takes, one at least. -/
def Row.height (row : Row) : Nat := (row.map fun cell => cell.lines.length).foldl max 1

/-- A table: its titles and its rows. -/
structure Table where
  titles : Row
  rows : List Row

namespace Table

def allRows (t : Table) : List Row := t.titles :: t.rows

/-- The width of a column. -/
def columnWidth (t : Table) (column : Nat) : Nat :=
  (t.allRows.map fun row => (row[column]?.map Cell.width).getD 0).foldl max 0

/-- The widths of all columns. -/
def widths (t : Table) : List Nat :=
  (List.range ((t.allRows.map List.length).foldl max 0)).map t.columnWidth

/-- A rule. -/
def ruleLine (widths : List Nat) : String :=
  String.join ("+" :: widths.map fun w => String.ofList (List.replicate (w + 2) '-') ++ "+") ++ "\n"

/-- One line of a row. -/
def rowLine (widths : List Nat) (row : Row) (index : Nat) : String :=
  let cell (column width : Nat) : String :=
    " " ++ (row.getD column (.left "")).line width index ++ " |"
  String.join ("|" :: widths.mapIdx cell) ++ "\n"

def rowText (widths : List Nat) (row : Row) : String :=
  String.join ((List.range row.height).map (rowLine widths row))

/-- **The text of a table**, every line ended. -/
def text (t : Table) : String :=
  let widths := t.widths
  let rule := ruleLine widths
  rule ++ rowText widths t.titles ++ rule ++ String.join (t.rows.map (rowText widths)) ++ rule

end Table

end ClusterBilling.Report
