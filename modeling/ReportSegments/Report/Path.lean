import ReportSegments.Report.Table
import ReportSegments.Text.Blank
import ReportSegments.Text.Pieces

/-!
This module contains paths to rows through open sub-tables: the rows of a table with their paths,
the row at a path, and the reading of a written path.
-/

namespace ReportSegments

def RowId.pathText (path : List RowId) : String :=
  String.intercalate "/" (path.map RowId.text)

namespace Rows

mutual

/--
All rows with their paths, in the order in which they are shown: a row, the rows of its sub-table,
the next row, and the summary row last.
-/
def flatten : Table → List (List RowId × Row)
  | ⟨rows, summary⟩ => flattenRows 0 rows ++ flattenSummary summary

/--
The rows of a list that starts at place `i`.
-/
def flattenRows (i : Nat) : List Row → List (List RowId × Row)
  | [] => []
  | row :: rows => flattenRow (.index i) row ++ flattenRows (i + 1) rows

def flattenSummary : Option Row → List (List RowId × Row)
  | none => []
  | some row => flattenRow .summary row

def flattenRow (id : RowId) : Row → List (List RowId × Row)
  | row@⟨_, _, _, subtable, _⟩ =>
    ([id], row) :: (flattenSubtable subtable).map fun (path, row) => (id :: path, row)

def flattenSubtable : Option Table → List (List RowId × Row)
  | none => []
  | some table => flatten table

end

def rowAt? (table : Table) : List Nat → Option Row
  | [] => none
  | [i] => table.rows[i]?
  | i :: j :: path => (table.rows[i]?.bind Row.subtable).bind fun subtable => subtable.rowAt? (j :: path)

end Rows

namespace Row

/--
Reads an index: decimal digits with blanks around them and an optional `+` in front, below `2 ^ 64`.
-/
def readIndex? (cs : List Char) : Option Nat :=
  let digits :=
    match Text.trim cs with
    | '+' :: digits => digits
    | digits => digits
  let n := Nat.ofDigitChars 10 digits 0
  if digits ≠ [] ∧ digits.all Char.isDigit ∧ n < 18446744073709551616 then some n else none

/--
Reads a path of indices such as `0/2/1`.
-/
def readPath? (s : String) : Option (List Nat) :=
  (Text.pieces ['/'] s.toList).mapM readIndex?

end Row
end ReportSegments
