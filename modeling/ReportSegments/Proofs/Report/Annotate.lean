import ReportSegments.Proofs.Report.WalkedRows

/-!
This module contains what the walk that writes annotations does: the rows of the walk have the
metadata that are written to them, and they are counted, each of them once.
-/

namespace ReportSegments
namespace Rows

/--
The metadata of a row to which some may have been written.
-/
def written (f : RowId → Row → Option Fields) (id : RowId) (row : Row) : Fields :=
  (f id row).getD row.metadata

/--
Whether there are metadata to write to a row.
-/
def receives (f : RowId → Row → Option Fields) (entry : RowId × Row) : Bool :=
  (f entry.1 entry.2).isSome

variable {f : RowId → Row → Option Fields}

theorem annotateRow_eq (id : RowId) (row : Row) (count : Nat) :
    annotateRow f id row count =
      ({ row with metadata := written f id row }, count + [(id, row)].countP (receives f)) := by
  unfold annotateRow written
  rw [List.countP_singleton]
  unfold receives
  cases f id row with
  | none =>
    dsimp only [Option.getD_none]
    rw [Row.eta]
    rfl
  | some metadata => rfl

theorem annotateRows_eq (i : Nat) (rows : List Row) (count : Nat) :
    annotateRows f i rows count =
      (markRows (written f) i rows,
        count +
          ((rows.zipIdx i).map fun entry => (RowId.index entry.2, entry.1)).countP (receives f)) := by
  induction rows generalizing i count with
  | nil => rfl
  | cons row rows ih =>
    rw [annotateRows, annotateRow_eq]
    dsimp only
    rw [ih, markRows_cons, List.zipIdx_cons, List.map_cons, Nat.add_assoc, ← List.countP_append]
    rfl

theorem annotateSummary_eq (summary : Option Row) (count : Nat) :
    annotateSummary f summary count =
      (summary.map fun row => { row with metadata := written f .summary row },
        count + (summary.toList.map fun row => (RowId.summary, row)).countP (receives f)) := by
  cases summary with
  | none => rfl
  | some row =>
    rw [annotateSummary, annotateRow_eq]
    rfl

theorem withSubtables_markRows (g : RowId → Row → Fields) (i : Nat) (rows : List Row) :
    withSubtables (markRows g i rows) (rows.map fun row => row.subtable.map (mapMetadata g)) =
      mapMetadataRows g i rows := by
  induction rows generalizing i with
  | nil => rfl
  | cons row rows ih =>
    rw [markRows_cons, List.map_cons, mapMetadataRows, mapMetadataRow_eq, ← ih]
    rfl

theorem annotateBelowRow_eq (row : Row)
    (ih : ∀ subtable, row.subtable = some subtable → ∀ count,
      annotate f subtable count =
        (subtable.mapMetadata (written f), count + subtable.walkedRows.countP (receives f)))
    (count : Nat) :
    annotateBelowRow f row count =
      (row.subtable.map (mapMetadata (written f)),
        count + ((walkRow row).flatMap withSummary).countP (receives f)) := by
  rw [flatMap_walkRow]
  rcases row with ⟨label, columns, metadata, _ | subtable, level⟩
  . rfl
  . rw [annotateBelowRow, annotateSubtable, ih subtable rfl]
    rfl

theorem annotateBelow_eq (rows : List Row)
    (ih : ∀ row ∈ rows, ∀ subtable, row.subtable = some subtable → ∀ count,
      annotate f subtable count =
        (subtable.mapMetadata (written f), count + subtable.walkedRows.countP (receives f)))
    (count : Nat) :
    annotateBelow f rows count =
      (rows.map fun row => row.subtable.map (mapMetadata (written f)),
        count + ((walkRows rows).flatMap withSummary).countP (receives f)) := by
  induction rows generalizing count with
  | nil => rfl
  | cons row rows ihrows =>
    rw [List.forall_mem_cons] at ih
    rw [annotateBelow, annotateBelowRow_eq row ih.1]
    dsimp only
    rw [ihrows ih.2, walkRows, List.flatMap_append, List.countP_append, Nat.add_assoc,
      List.map_cons]

theorem annotate_eq (table : Table) (count : Nat) :
    annotate f table count =
      (table.mapMetadata (written f), count + table.walkedRows.countP (receives f)) := by
  induction table using nested_induction generalizing count with
  | step rows summary ih _ =>
    simp only [annotate, annotateRows_eq, annotateSummary_eq, annotateBelow_eq rows ih]
    rw [withSubtables_markRows, mapMetadata, walkedRows, walk, List.flatMap_cons,
      List.countP_append, withSummary, List.countP_append, Nat.add_assoc, Nat.add_assoc,
      Nat.add_assoc]

end Rows
end ReportSegments
