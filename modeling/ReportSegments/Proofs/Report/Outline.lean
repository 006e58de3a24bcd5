import ReportSegments.Proofs.Report.Bare

/-!
This module contains the outline of a table: its regular rows with their labels and levels, and the
outlines of the tables that are open below them. New metadata leaves it as it is.
-/

namespace ReportSegments
namespace Rows

mutual

/--
A table without columns, metadata and summary rows.
-/
def outline : Table → Table
  | ⟨rows, _⟩ => ⟨outlineRows rows, none⟩

def outlineRows : List Row → List Row
  | [] => []
  | row :: rows => outlineRow row :: outlineRows rows

def outlineRow : Row → Row
  | ⟨label, _, _, subtable, level⟩ => ⟨label, .empty, .empty, outlineSubtable subtable, level⟩

def outlineSubtable : Option Table → Option Table
  | none => none
  | some table => some (outline table)

end

theorem rows_outline (table : Table) : table.outline.rows = outlineRows table.rows := by
  cases table
  unfold outline
  rfl

theorem outlineRow_eq (row : Row) :
    outlineRow row =
      { label := row.label, subtable := row.subtable.map outline, level := row.level } := by
  rcases row with ⟨label, columns, metadata, subtable, level⟩
  unfold outlineRow
  cases subtable with
  | none => simp only [outlineSubtable, Option.map_none]
  | some table => simp only [outlineSubtable, Option.map_some]

theorem outlineRow_bareRow (row : Row)
    (ih : ∀ subtable, row.subtable = some subtable → subtable.bare.outline = subtable.outline) :
    outlineRow (bareRow row) = outlineRow row := by
  rw [bareRow_eq, outlineRow_eq, outlineRow_eq, Option.map_map]
  congr 1
  apply Option.map_congr
  exact ih

theorem outlineRows_bareRows (rows : List Row)
    (ih : ∀ row ∈ rows, ∀ subtable, row.subtable = some subtable →
      subtable.bare.outline = subtable.outline) :
    outlineRows (bareRows rows) = outlineRows rows := by
  induction rows with
  | nil => rfl
  | cons row rows ihrows =>
    rw [List.forall_mem_cons] at ih
    rw [bareRows, outlineRows, outlineRows, outlineRow_bareRow row ih.1, ihrows ih.2]

theorem outline_bare (table : Table) : table.bare.outline = table.outline := by
  induction table using nested_induction with
  | step rows summary ih _ => rw [bare, outline, outline, outlineRows_bareRows rows ih]

theorem outline_mapMetadata (f : RowId → Row → Fields) (table : Table) :
    (table.mapMetadata f).outline = table.outline := by
  rw [← outline_bare, bare_mapMetadata, outline_bare]

end Rows
end ReportSegments
