import ReportSegments.Proofs.Json.Revised
import ReportSegments.Proofs.Pass.Rowwise
import ReportSegments.Proofs.Report.Bare

/-!
This module contains the frame of a run. All rows stay in their places with their labels, columns
and levels. Of their metadata only the filter and the raw value change, and below a summary row not
even these.
-/

namespace ReportSegments

/--
The names under which passes write.
-/
def Pass.writtenKeys : List String :=
  [Row.filterKey, Row.presentationKey]

/--
How a row compares with itself before a run.
-/
structure Row.Framed (before after : Row) : Prop where
  label : after.label = before.label
  columns : after.columns = before.columns
  level : after.level = before.level
  subtable : after.subtable.isSome = before.subtable.isSome
  revised : Members.Revised Pass.writtenKeys before.metadata.entries after.metadata.entries
  distinct : (after.metadata.entries.map Prod.fst).Nodup

namespace Pass

theorem revised_edit? {pass : Pass} {id : RowId} {row : Row} {fields : Fields}
    (h : pass.edit? id row = some fields) :
    Members.Revised writtenKeys row.metadata.entries fields.entries := by
  unfold edit? at h
  split at h
  . next source =>
    obtain ⟨source, -, rfl⟩ := Option.map_eq_some_iff.1 h
    apply Members.revised_set
    decide
  . obtain ⟨filter, -, hset⟩ := Option.bind_eq_some_iff.1 h
    unfold Fields.setIfAbsent? at hset
    split at hset
    . contradiction
    . obtain rfl := Option.some.inj hset
      apply Members.revised_set
      decide

theorem revised_edit (pass : Pass) (id : RowId) (row : Row) :
    Members.Revised writtenKeys row.metadata.entries (pass.edit id row).entries := by
  unfold edit
  cases pass.fault? with
  | some error => exact .refl _
  | none =>
    cases hedit : pass.edit? id row with
    | none => exact .refl _
    | some fields => exact revised_edit? hedit

end Pass

namespace Pipeline

theorem revised_edit (passes : Pipeline) (id : RowId) (row : Row) :
    Members.Revised Pass.writtenKeys row.metadata.entries (edit passes id row).entries := by
  induction passes generalizing row with
  | nil => exact .refl _
  | cons pass passes ih =>
    have hrest := ih { row with metadata := pass.edit id row }
    exact (pass.revised_edit id row).trans hrest

theorem framed_mapMetadataAt (passes : Pipeline) {path : List RowId} (hpath : path ≠ [])
    (row : Row) : row.Framed (Rows.mapMetadataAt (edit passes) path row) := by
  cases hwalked : Rows.isWalked path with
  | false =>
    rw [Rows.mapMetadataAt_eq_self _ hwalked]
    exact ⟨rfl, rfl, rfl, rfl, .refl _, row.metadata.distinct⟩
  | true =>
    have hlast := List.getLast?_eq_some_getLast hpath
    obtain ⟨subtable, heq, hsubtable⟩ := Rows.mapMetadataAt_eq (edit passes) hwalked hlast row
    rw [heq]
    exact ⟨rfl, rfl, rfl, hsubtable, revised_edit passes _ row, Fields.distinct _⟩

/--
After a run the table is the same but for metadata, and row by row its metadata are the same but for
the filter and the raw value. Rows below a summary row are the same.
-/
theorem framed_run (passes : Pipeline) (table : Table) :
    let result := (run passes table).1
    result.bare = table.bare ∧
      List.Forall₂
        (fun before after =>
          after.1 = before.1 ∧ before.2.Framed after.2 ∧
          (RowId.summary ∈ before.1.dropLast → after.2 = before.2))
        table.flatten result.flatten := by
  dsimp only
  rw [fst_run]
  refine ⟨Rows.bare_mapMetadata _ table, ?_⟩
  apply Rows.forall₂_flatten_mapMetadata
  intro ⟨path, row⟩ hentry
  refine ⟨rfl, framed_mapMetadataAt passes (Rows.ne_nil_of_mem_flatten hentry) row, ?_⟩
  intro hsummary
  exact Rows.mapMetadataAt_eq_self _ (Rows.isWalked_eq_false_iff.2 hsummary) row

end Pipeline
end ReportSegments
