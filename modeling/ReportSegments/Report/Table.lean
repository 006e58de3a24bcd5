import ReportSegments.Json.Basic

/-!
This module contains the tables of a report: rows with columns and metadata, under which further
tables may be open, and an optional summary row.
-/

namespace ReportSegments

/--
The rows of a table, and its summary row for everything that has no row of its own.
-/
structure Rows (ρ : Type) where
  rows : List ρ := []
  summary : Option ρ := none

/--
A row of a report. `level` is its depth where a hierarchy is shown as a flat list.
-/
structure Row where
  label : String := ""
  columns : Fields := .empty
  metadata : Fields := .empty
  subtable : Option (Rows Row) := none
  level : Option UInt32 := none

abbrev Table := Rows Row

/--
The place of a row in its table.
-/
inductive RowId where
  | index (i : Nat)
  | summary
deriving DecidableEq, Repr

namespace RowId

/--
A number for a place; the summary row has -1.
-/
def toInt : RowId → Int
  | index i => i
  | summary => -1

def text : RowId → String
  | index i => i.repr
  | summary => "summary"

def isSummary : RowId → Bool
  | index _ => false
  | summary => true

end RowId

namespace Row

/--
The name of the metadata that holds the expression for the records behind a row.
-/
def filterKey : String := "segmentFilter"

/--
The name of the metadata that holds the value of the segment where it is not the label.
-/
def valueKey : String := "segmentValue"

/--
The name of the metadata that holds the raw value behind a row.
-/
def presentationKey : String := "segment_value"

/--
The name of the metadata that holds the label before it was formatted.
-/
def unformattedLabelKey : String := "original_label"

def segmentFilter? (row : Row) : Option String :=
  row.metadata.string? filterKey

end Row

namespace Rows

def ofLabels (labels : List String) : Table where
  rows := labels.map fun label => { label }

def row? (table : Rows ρ) : RowId → Option ρ
  | .index i => table.rows[i]?
  | .summary => table.summary

def withSummary (table : Rows ρ) : List (RowId × ρ) :=
  (table.rows.zipIdx.map fun (row, i) => (.index i, row)) ++
    table.summary.toList.map fun row => (.summary, row)

end Rows
end ReportSegments
