import Mathlib.Data.List.Forall2
import ReportSegments.Proofs.Report.Walk

/-!
This module contains tables without their metadata, which stay the same under new metadata, and how
the rows before and behind new metadata are compared.
-/

namespace ReportSegments
namespace Rows

mutual

/--
A table without the metadata of its rows.
-/
def bare : Table → Table
  | ⟨rows, summary⟩ => ⟨bareRows rows, bareSummary summary⟩

def bareRows : List Row → List Row
  | [] => []
  | row :: rows => bareRow row :: bareRows rows

def bareSummary : Option Row → Option Row
  | none => none
  | some row => some (bareRow row)

def bareRow : Row → Row
  | ⟨label, columns, _, subtable, level⟩ => ⟨label, columns, .empty, bareSubtable subtable, level⟩

def bareSubtable : Option Table → Option Table
  | none => none
  | some table => some (bare table)

end

theorem bareRow_eq (row : Row) :
    bareRow row = { row with metadata := .empty, subtable := row.subtable.map bare } := by
  rcases row with ⟨label, columns, metadata, subtable, level⟩
  unfold bareRow
  cases subtable with
  | none => simp only [bareSubtable, Option.map_none]
  | some table => simp only [bareSubtable, Option.map_some]

theorem bareRow_mapMetadataRow (f : RowId → Row → Fields) (i : Nat) (row : Row)
    (ih : ∀ subtable, row.subtable = some subtable →
      (subtable.mapMetadata f).bare = subtable.bare) :
    bareRow (mapMetadataRow f i row) = bareRow row := by
  rw [mapMetadataRow_eq, bareRow_eq, bareRow_eq, Option.map_map]
  congr 1
  apply Option.map_congr
  exact ih

theorem bareRows_mapMetadataRows (f : RowId → Row → Fields) (i : Nat) (rows : List Row)
    (ih : ∀ row ∈ rows, ∀ subtable, row.subtable = some subtable →
      (subtable.mapMetadata f).bare = subtable.bare) :
    bareRows (mapMetadataRows f i rows) = bareRows rows := by
  induction rows generalizing i with
  | nil => rfl
  | cons row rows ihrows =>
    rw [List.forall_mem_cons] at ih
    rw [mapMetadataRows, bareRows, bareRows, bareRow_mapMetadataRow f i row ih.1,
      ihrows (i + 1) ih.2]

theorem bare_mapMetadata (f : RowId → Row → Fields) (table : Table) :
    (table.mapMetadata f).bare = table.bare := by
  induction table using nested_induction with
  | step rows summary ih _ =>
    rw [mapMetadata, bare, bare, bareRows_mapMetadataRows f 0 rows ih]
    cases summary with
    | none => rfl
    | some row =>
      rw [Option.map_some, bareSummary, bareSummary, bareRow_eq, bareRow_eq]

theorem forall₂_flatten_mapMetadata {r : List RowId × Row → List RowId × Row → Prop}
    {f : RowId → Row → Fields} {table : Table}
    (h : ∀ entry ∈ table.flatten, r entry (entry.1, mapMetadataAt f entry.1 entry.2)) :
    List.Forall₂ r table.flatten (table.mapMetadata f).flatten := by
  rw [flatten_mapMetadata, List.forall₂_map_right_iff, List.forall₂_same]
  exact h

end Rows
end ReportSegments
