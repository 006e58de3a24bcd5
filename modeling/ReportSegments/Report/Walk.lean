import ReportSegments.Report.Table

/-!
This module contains the walk over a table and the tables below it. It goes into the sub-tables of
regular rows, never into that of a summary row. Annotations are written, and counted, on one walk.
-/

namespace ReportSegments
namespace Rows

mutual

/--
The tables of the walk, a table before its sub-tables and those in the order of their rows.
-/
def walk : Table → List Table
  | table@⟨rows, _⟩ => table :: walkRows rows

def walkRows : List Row → List Table
  | [] => []
  | row :: rows => walkRow row ++ walkRows rows

def walkRow : Row → List Table
  | ⟨_, _, _, subtable, _⟩ => walkSubtable subtable

def walkSubtable : Option Table → List Table
  | none => []
  | some table => walk table

end

/--
The rows of the walk with their places, summary rows included.
-/
def walkedRows (table : Table) : List (RowId × Row) :=
  table.walk.flatMap withSummary

mutual

/--
Gives every row of the walk new metadata. Nothing else changes.
-/
def mapMetadata (f : RowId → Row → Fields) : Table → Table
  | ⟨rows, summary⟩ =>
    ⟨mapMetadataRows f 0 rows, summary.map fun row => { row with metadata := f .summary row }⟩

/--
New metadata for a list of rows that starts at place `i`.
-/
def mapMetadataRows (f : RowId → Row → Fields) (i : Nat) : List Row → List Row
  | [] => []
  | row :: rows => mapMetadataRow f i row :: mapMetadataRows f (i + 1) rows

/--
New metadata for the row at place `i` and the rows below it.
-/
def mapMetadataRow (f : RowId → Row → Fields) (i : Nat) : Row → Row
  | row@⟨label, columns, _, subtable, level⟩ =>
    ⟨label, columns, f (.index i) row, mapMetadataSubtable f subtable, level⟩

def mapMetadataSubtable (f : RowId → Row → Fields) : Option Table → Option Table
  | none => none
  | some table => some (mapMetadata f table)

end

/--
Writes new metadata to a row, if there are any for it, and counts the row then.
-/
def annotateRow (f : RowId → Row → Option Fields) (id : RowId) (row : Row) (count : Nat) :
    Row × Nat :=
  match f id row with
  | some metadata => ({ row with metadata }, count + 1)
  | none => (row, count)

/--
Annotates a list of rows that starts at place `i`.
-/
def annotateRows (f : RowId → Row → Option Fields) (i : Nat) : List Row → Nat → List Row × Nat
  | [], count => ([], count)
  | row :: rows, count =>
    let (row, count) := annotateRow f (.index i) row count
    let (rows, count) := annotateRows f (i + 1) rows count
    (row :: rows, count)

def annotateSummary (f : RowId → Row → Option Fields) : Option Row → Nat → Option Row × Nat
  | none, count => (none, count)
  | some row, count =>
    let (row, count) := annotateRow f .summary row count
    (some row, count)

/--
Rows with other sub-tables.
-/
def withSubtables (rows : List Row) (subtables : List (Option Table)) : List Row :=
  rows.zipWith (fun row subtable => { row with subtable }) subtables

mutual

/--
Writes metadata on a walk, where there are any for a row, and adds the rows that receive some to a
count. All rows of a table come before those of its sub-tables, to which nothing is written before.
-/
def annotate (f : RowId → Row → Option Fields) : Table → Nat → Table × Nat
  | ⟨rows, summary⟩, count =>
    let (annotated, count) := annotateRows f 0 rows count
    let (summary, count) := annotateSummary f summary count
    let (subtables, count) := annotateBelow f rows count
    (⟨withSubtables annotated subtables, summary⟩, count)

/--
Annotates the sub-tables of rows.
-/
def annotateBelow (f : RowId → Row → Option Fields) : List Row → Nat → List (Option Table) × Nat
  | [], count => ([], count)
  | row :: rows, count =>
    let (subtable, count) := annotateBelowRow f row count
    let (subtables, count) := annotateBelow f rows count
    (subtable :: subtables, count)

def annotateBelowRow (f : RowId → Row → Option Fields) : Row → Nat → Option Table × Nat
  | ⟨_, _, _, subtable, _⟩, count => annotateSubtable f subtable count

def annotateSubtable (f : RowId → Row → Option Fields) :
    Option Table → Nat → Option Table × Nat
  | none, count => (none, count)
  | some table, count =>
    let (table, count) := annotate f table count
    (some table, count)

end

end Rows
end ReportSegments
