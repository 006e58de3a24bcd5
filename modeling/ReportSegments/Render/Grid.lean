import ReportSegments.Text.Columns
import ReportSegments.Text.Pieces

/-!
This module contains grids: a header and rows of cells between lines of ASCII characters. Every
column is as wide as the widest line of its cells.
-/

namespace ReportSegments

/--
Cells in rows and columns. A cell is a text of any number of lines.
-/
structure Grid where
  header : List String
  rows : List (List String) := []
deriving DecidableEq, Repr

namespace Grid

def cellLines (cell : String) : List (List Char) :=
  Text.pieces ['\n'] cell.toList

def cellWidth (cell : String) : Nat :=
  ((cellLines cell).map Text.columns).foldl max 0

def widths (grid : Grid) : List Nat :=
  grid.rows.foldl (fun widths row => widths.zipWith max (row.map cellWidth))
    (grid.header.map cellWidth)

/--
A horizontal line: `fill` through the columns, `cross` between them and `edge` at both ends.
-/
def rule (edge fill cross : Char) (widths : List Nat) : List Char :=
  edge :: [cross].intercalate (widths.map fun width => List.replicate (width + 2) fill) ++ [edge]

def pad (width : Nat) (line : List Char) : List Char :=
  ' ' :: line ++ List.replicate (width - Text.columns line + 1) ' '

/--
The lines of a row. It is as high as its highest cell.
-/
def rowLines (widths : List Nat) (row : List String) : List (List Char) :=
  let cells := row.map cellLines
  (List.range ((cells.map List.length).foldl max 0)).map fun i =>
    let texts := widths.zipWith pad (cells.map fun lines => lines[i]?.getD [])
    '|' :: ['|'].intercalate texts ++ ['|']

/--
The rows of the body with a line between any two.
-/
def bodyLines (widths : List Nat) : List (List String) → List (List Char)
  | [] => []
  | [row] => rowLines widths row
  | row :: rows => rowLines widths row ++ rule '|' '-' '+' widths :: bodyLines widths rows

def lines (grid : Grid) : List (List Char) :=
  let widths := grid.widths
  rule '+' '-' '+' widths :: rowLines widths grid.header ++
    rule '+' '=' '=' widths :: bodyLines widths grid.rows ++ [rule '+' '-' '+' widths]

/--
A grid as text, without an end of line after its last line.
-/
def text (grid : Grid) : String :=
  String.ofList (['\n'].intercalate grid.lines)

end Grid
end ReportSegments
