import ReportSegments.Proofs.Report.Bare
import ReportSegments.Proofs.Report.Reached
import ReportSegments.Proofs.Report.Visitor

/-!
This module contains the visitor that writes new metadata in the rows of each table to which it
comes. The walk with it changes the rows at the paths without a summary row before their end, each
of them once, and no other one.
-/

namespace ReportSegments
namespace Rows

/--
New metadata for the rows of one table, its summary row included.
-/
def mark (f : RowId → Row → Fields) (table : Table) : Table where
  rows := markRows f 0 table.rows
  summary := table.summary.map fun row => { row with metadata := f .summary row }

theorem openingsRows_markRows (f : RowId → Row → Fields) (i : Nat) (rows : List Row) :
    openingsRows i (markRows f i rows) = openingsRows i rows := by
  induction rows generalizing i with
  | nil => rfl
  | cons row rows ih =>
    rw [markRows_cons, openingsRows, openingsRows, ih, openingsRow_eq, openingsRow_eq]

/--
Writes new metadata in the rows of a table, and keeps the rows to which it has come.
-/
def marking (f : RowId → Row → Fields) : Visitor (List (RowId × Row)) where
  visit written table := (written ++ table.withSummary, table.mark f)
  openings_visit written table := by
    rw [openings_eq, openings_eq, mark, openingsRows_markRows]

variable {f : RowId → Row → Fields}

theorem visit_marking (written : List (RowId × Row)) (table : Table) :
    (marking f).visit written table = (written ++ table.withSummary, table.mark f) :=
  rfl

theorem visitRow_marking (written : List (RowId × Row)) (i : Nat) (row : Row)
    (ih : ∀ subtable, row.subtable = some subtable → ∀ written,
      visitAll (marking f) written subtable =
        (written ++ subtable.walkedRows, subtable.mapMetadata f)) :
    visitRow (marking f) written { row with metadata := f (.index i) row } =
      (written ++ (walkRow row).flatMap withSummary, mapMetadataRow f i row) := by
  rw [flatMap_walkRow, mapMetadataRow_eq]
  cases hsub : row.subtable with
  | none =>
    rw [visitRow, Option.elim_none, List.append_nil]
    rfl
  | some subtable =>
    rw [visitRow, ih subtable hsub]
    rfl

theorem visitRows_marking (written : List (RowId × Row)) (i : Nat) (rows : List Row)
    (ih : ∀ row ∈ rows, ∀ subtable, row.subtable = some subtable → ∀ written,
      visitAll (marking f) written subtable =
        (written ++ subtable.walkedRows, subtable.mapMetadata f)) :
    visitRows (marking f) written (markRows f i rows) =
      (written ++ (walkRows rows).flatMap withSummary, mapMetadataRows f i rows) := by
  induction rows generalizing i written with
  | nil =>
    rw [markRows, List.zipIdx_nil, List.map_nil, visitRows, walkRows, List.flatMap_nil,
      List.append_nil, mapMetadataRows]
  | cons row rows ihrows =>
    rw [List.forall_mem_cons] at ih
    rw [markRows_cons, visitRows, visitRow_marking written i row ih.1, ihrows _ _ ih.2, walkRows,
      List.flatMap_append, List.append_assoc, mapMetadataRows]

/--
The walk with the marking visitor gives the rows of the walk and the table with new metadata.
-/
theorem visitAll_marking (written : List (RowId × Row)) (table : Table) :
    visitAll (marking f) written table =
      (written ++ table.walkedRows, table.mapMetadata f) := by
  induction table using nested_induction generalizing written with
  | step rows summary ih _ =>
    rw [visitAll, visit_marking, mapMetadata, walkedRows, walk, List.flatMap_cons, mark]
    dsimp only
    rw [visitRows_marking _ 0 rows ih, List.append_assoc]

theorem mapMetadataAt_spec (f : RowId → Row → Fields) {path : List RowId} (hpath : path ≠ [])
    (row : Row) :
    let marked := mapMetadataAt f path row
    (.summary ∈ path.dropLast → marked = row) ∧
      (.summary ∉ path.dropLast →
        ∃ id, path.getLast? = some id ∧
          marked = { row with metadata := f id row, subtable := marked.subtable }) := by
  constructor
  . intro hsummary
    exact mapMetadataAt_eq_self f (isWalked_eq_false_iff.2 hsummary) row
  . intro hregular
    have hwalked : isWalked path = true := by
      rw [← Bool.not_eq_false, isWalked_eq_false_iff]
      exact hregular
    have hlast := List.getLast?_eq_some_getLast hpath
    obtain ⟨subtable, heq, -⟩ := mapMetadataAt_eq f hwalked hlast row
    refine ⟨_, hlast, ?_⟩
    rw [heq]

/--
The walk comes to the tables that are open through regular rows, to each of them once, to a table
before those below it and to what is below a row before what is below a later one. New metadata goes
in just the rows without a summary row above them, once in each of them; nothing else changes.
-/
theorem visitAll_covers (table : Table) :
    (∀ path, path ∈ table.openings ↔ ∃ opened, table.tableAt? path = some opened) ∧
      table.openings.Nodup ∧
      table.openings.Pairwise (List.Lex (· < ·)) ∧
      table.openings.map table.tableAt? = table.walk.map some ∧
      (∀ (σ : Type) (visitor : Visitor σ) (state : σ),
        visitEach? visitor (state, table) table.openings = some (visitAll visitor state table)) ∧
      ∀ f : RowId → Row → Fields,
        let (written, marked) := visitAll (marking f) [] table
        marked = table.mapMetadata f ∧
          marked.bare = table.bare ∧
          written.Perm table.reachedRows ∧
          List.Forall₂ (fun before after =>
            after.1 = before.1 ∧
              (.summary ∈ before.1.dropLast → after.2 = before.2) ∧
              (.summary ∉ before.1.dropLast →
                ∃ id, before.1.getLast? = some id ∧
                  after.2 = { before.2 with
                    metadata := f id before.2
                    subtable := after.2.subtable })) table.flatten marked.flatten := by
  refine ⟨fun path => mem_openings_iff, ?_, pairwise_openings table, map_tableAt?_openings table,
    ?_, ?_⟩
  . apply (pairwise_openings table).imp
    rintro path path' hlex rfl
    exact irrefl_of (List.Lex (· < ·)) path hlex
  . intro σ visitor state
    exact visitEach?_openings visitor state table
  . intro f
    rw [visitAll_marking]
    refine ⟨rfl, bare_mapMetadata f table, walkedRows_perm table, ?_⟩
    apply forall₂_flatten_mapMetadata
    intro entry hentry
    exact ⟨rfl, mapMetadataAt_spec f (ne_nil_of_mem_flatten hentry) entry.2⟩

end Rows
end ReportSegments
