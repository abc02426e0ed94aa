import SensorClient.Text.Split
import SensorClient.Text.Width

/-!
# Tables

A table is drawn with lines around it, under its header and between its rows. Every column is as
wide as its widest cell. A cell of several lines makes its row as high as it needs.

## Main definitions

* `Table`: a header and rows
* `Table.draw`: the picture of a table
-/

namespace SensorClient

/-- A header and rows; every row has a cell for each cell of the header. -/
structure Table where
  header : List String
  rows : List (List String)
deriving DecidableEq, Repr

namespace Table

/-- The characters of a horizontal line. -/
structure Stroke where
  left : Char
  fill : Char
  crossing : Char
  right : Char
deriving DecidableEq, Repr

/-- Drawn above the header. -/
def topStroke : Stroke := ⟨'┌', '─', '┬', '┐'⟩

/-- Drawn under the header. -/
def headerStroke : Stroke := ⟨'╞', '═', '╪', '╡'⟩

/-- Drawn between rows. -/
def rowStroke : Stroke := ⟨'├', '╌', '┼', '┤'⟩

/-- Drawn under the last row. -/
def bottomStroke : Stroke := ⟨'└', '─', '┴', '┘'⟩

/-- The line across columns of these widths, with a space left and right in each. -/
def Stroke.across (stroke : Stroke) (widths : List Nat) : List Char :=
  [stroke.left]
    ++ [stroke.crossing].intercalate (widths.map fun w => List.replicate (w + 2) stroke.fill)
    ++ [stroke.right]

/-- The lines of a cell. -/
def cellLines (cell : String) : List (List Char) := Text.split '\n' cell.toList

/-- The largest of some numbers. -/
def largest (ns : List Nat) : Nat := ns.foldl max 0

/-- The columns that a cell needs. -/
def cellWidth (cell : String) : Nat :=
  largest ((cellLines cell).map Text.width)

/-- The width of every column. -/
def widths (t : Table) : List Nat :=
  t.header.mapIdx fun i _ =>
    largest ((t.header :: t.rows).map fun row => cellWidth (row[i]?.getD ""))

/-- One line of a cell in a column of a given width. -/
def fitted (width : Nat) (line : List Char) : List Char :=
  [' '] ++ line ++ List.replicate (width - Text.width line) ' ' ++ [' ']

/-- The lines of a row. -/
def rowLines (widths : List Nat) (row : List String) : List (List Char) :=
  let cells := row.map cellLines
  (List.range (largest (cells.map List.length))).map fun i =>
    ['│'] ++ ['┆'].intercalate
      (List.zipWith (fun width lines => fitted width (lines[i]?.getD [])) widths cells) ++ ['│']

/-- The lines of a table. -/
def drawLines (t : Table) : List (List Char) :=
  let widths := t.widths
  let body := [rowStroke.across widths].intercalate (t.rows.map (rowLines widths))
  [topStroke.across widths] ++ rowLines widths t.header ++ [headerStroke.across widths] ++ body
    ++ [bottomStroke.across widths]

/-- The picture of a table. -/
def draw (t : Table) : String := String.ofList (['\n'].intercalate t.drawLines)

end Table

end SensorClient
