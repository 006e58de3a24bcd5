import ReportSegments.Proofs.Report.Walk

/-!
This module contains the tables of the walk, and its rows after new metadata: they are the same rows
at the same places, each with its new metadata.
-/

namespace ReportSegments
namespace Rows

theorem walkRow_eq (row : Row) : walkRow row = row.subtable.elim [] walk := by
  rcases row with ⟨label, columns, metadata, subtable, level⟩
  cases subtable <;> rfl

theorem flatMap_walkRow (row : Row) :
    (walkRow row).flatMap withSummary = row.subtable.elim [] walkedRows := by
  rw [walkRow_eq]
  cases row.subtable <;> rfl

theorem mem_walk_self (table : Table) : table ∈ table.walk := by
  rcases table with ⟨rows, summary⟩
  exact List.mem_cons_self

theorem walkRows_eq (rows : List Row) : walkRows rows = rows.flatMap walkRow := by
  induction rows with
  | nil => rfl
  | cons row rows ih => rw [walkRows, List.flatMap_cons, ih]

theorem mem_walk_of_subtable {table subtable opened : Table} {row : Row} (hrow : row ∈ table.rows)
    (hsub : row.subtable = some subtable) (h : opened ∈ subtable.walk) : opened ∈ table.walk := by
  rcases table with ⟨rows, summary⟩
  have hbelow : opened ∈ walkRow row := by
    rw [walkRow_eq, hsub]
    exact h
  rw [walk, walkRows_eq]
  exact List.mem_cons_of_mem _ (List.mem_flatMap_of_mem hrow hbelow)

theorem walkRow_mapMetadataRow (f : RowId → Row → Fields) (i : Nat) (row : Row)
    (ih : ∀ subtable, row.subtable = some subtable →
      (subtable.mapMetadata f).walk = subtable.walk.map (mapMetadata f)) :
    walkRow (mapMetadataRow f i row) = (walkRow row).map (mapMetadata f) := by
  rw [walkRow_eq, walkRow_eq, mapMetadataRow_eq]
  cases hsub : row.subtable with
  | none => rfl
  | some subtable => exact ih subtable hsub

theorem walkRows_mapMetadataRows (f : RowId → Row → Fields) (i : Nat) (rows : List Row)
    (ih : ∀ row ∈ rows, ∀ subtable, row.subtable = some subtable →
      (subtable.mapMetadata f).walk = subtable.walk.map (mapMetadata f)) :
    walkRows (mapMetadataRows f i rows) = (walkRows rows).map (mapMetadata f) := by
  induction rows generalizing i with
  | nil => rfl
  | cons row rows ihrows =>
    rw [List.forall_mem_cons] at ih
    rw [mapMetadataRows, walkRows, walkRows, List.map_append, ihrows (i + 1) ih.2,
      walkRow_mapMetadataRow f i row ih.1]

theorem walk_mapMetadata (f : RowId → Row → Fields) (table : Table) :
    (table.mapMetadata f).walk = table.walk.map (mapMetadata f) := by
  induction table using nested_induction with
  | step rows summary ih _ =>
    simp only [mapMetadata, walk, List.map_cons]
    rw [walkRows_mapMetadataRows f 0 rows ih]

/--
New metadata for the rows of a list that starts at place `i`, not for the rows below them.
-/
def markRows (f : RowId → Row → Fields) (i : Nat) (rows : List Row) : List Row :=
  (rows.zipIdx i).map fun (row, i) => { row with metadata := f (.index i) row }

theorem markRows_cons (f : RowId → Row → Fields) (i : Nat) (row : Row) (rows : List Row) :
    markRows f i (row :: rows) =
      { row with metadata := f (.index i) row } :: markRows f (i + 1) rows := by
  simp [markRows]

theorem zipIdx_mapMetadataRows (f : RowId → Row → Fields) (i : Nat) (rows : List Row) :
    (mapMetadataRows f i rows).zipIdx i =
      (rows.zipIdx i).map fun (row, j) => (mapMetadataRow f j row, j) := by
  induction rows generalizing i with
  | nil => rfl
  | cons row rows ih => simp [mapMetadataRows, ih]

theorem withSummary_mapMetadata (f : RowId → Row → Fields) (table : Table) :
    (table.mapMetadata f).withSummary =
      table.withSummary.map fun (id, row) => (id, mapMetadataAt f [id] row) := by
  rcases table with ⟨rows, summary⟩
  simp only [withSummary, mapMetadata, zipIdx_mapMetadataRows, List.map_append, List.map_map]
  cases summary <;> rfl

theorem walkedRows_mapMetadata (f : RowId → Row → Fields) (table : Table) :
    (table.mapMetadata f).walkedRows =
      table.walkedRows.map fun (id, row) => (id, mapMetadataAt f [id] row) := by
  unfold walkedRows
  rw [walk_mapMetadata, List.flatMap_map, List.map_flatMap]
  simp only [withSummary_mapMetadata]

theorem length_walkedRows_mapMetadata (f : RowId → Row → Fields) (table : Table) :
    (table.mapMetadata f).walkedRows.length = table.walkedRows.length := by
  rw [walkedRows_mapMetadata, List.length_map]

theorem exists_mapMetadataAt_eq (f : RowId → Row → Fields) (id : RowId) (row : Row) :
    ∃ subtable, mapMetadataAt f [id] row = { row with metadata := f id row, subtable } := by
  obtain ⟨subtable, heq, -⟩ := mapMetadataAt_eq f (rfl : isWalked [id] = true) rfl row
  exact ⟨subtable, heq⟩

end Rows
end ReportSegments
