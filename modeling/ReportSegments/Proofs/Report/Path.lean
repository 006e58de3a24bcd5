import ReportSegments.Proofs.Report.Walk

/-!
This module contains how a path of indices goes on by one index, and how many sub-tables can be
opened through regular rows.
-/

namespace ReportSegments
namespace Rows

theorem rowAt?_cons (table : Table) (i : Nat) {path : List Nat} (hne : path ≠ []) :
    table.rowAt? (i :: path) =
      (table.rows[i]?.bind Row.subtable).bind fun subtable => subtable.rowAt? path := by
  cases path with
  | nil => contradiction
  | cons j path => rfl

theorem rowAt?_concat (table : Table) {path : List Nat} (hne : path ≠ []) (j : Nat) :
    table.rowAt? (path ++ [j]) =
      ((table.rowAt? path).bind Row.subtable).bind fun subtable => subtable.rows[j]? := by
  fun_induction rowAt? table path with
  | case1 => contradiction
  | case2 table i => rfl
  | case3 table i k path ih =>
    rw [List.cons_append, List.cons_append, rowAt?]
    cases hsub : table.rows[i]?.bind Row.subtable with
    | none => rfl
    | some subtable => exact ih subtable (List.cons_ne_nil k path)

/--
Whether a row has a sub-table and is reached through regular rows, itself one.
-/
def opensSubtable (path : List RowId) (row : Row) : Bool :=
  path.all (!·.isSummary) && row.subtable.isSome

/--
How many rows have a sub-table and are reached through regular rows.
-/
def subtableCount (table : Table) : Nat :=
  table.flatten.countP fun (path, row) => opensSubtable path row

theorem countP_flattenRow_index (i : Nat) (row : Row) :
    (flattenRow (.index i) row).countP (fun (path, row) => opensSubtable path row) =
      row.subtable.elim 0 fun subtable => 1 + subtable.subtableCount := by
  rw [flattenRow_eq, List.countP_cons, List.countP_map]
  cases hsub : row.subtable with
  | none => simp [opensSubtable, hsub]
  | some subtable =>
    rw [Nat.add_comm]
    simp [opensSubtable, hsub, subtableCount, RowId.isSummary, Function.comp_def]

theorem countP_flattenSummary (summary : Option Row) :
    (flattenSummary summary).countP (fun (path, row) => opensSubtable path row) = 0 := by
  rw [List.countP_eq_zero]
  cases summary with
  | none => simp [flattenSummary]
  | some row =>
    intro entry hentry
    rw [flattenSummary, flattenRow_eq, List.mem_cons, List.mem_map] at hentry
    rcases hentry with rfl | ⟨_, _, rfl⟩ <;> exact Bool.false_ne_true

def subtableCountRows : List Row → Nat
  | [] => 0
  | row :: rows =>
    (row.subtable.elim 0 fun subtable => 1 + subtable.subtableCount) + subtableCountRows rows

theorem countP_flattenRows (i : Nat) (rows : List Row) :
    (flattenRows i rows).countP (fun (path, row) => opensSubtable path row) =
      subtableCountRows rows := by
  induction rows generalizing i with
  | nil => rfl
  | cons row rows ih =>
    rw [flattenRows, List.countP_append, countP_flattenRow_index, ih]
    rfl

theorem subtableCount_eq (table : Table) :
    table.subtableCount = subtableCountRows table.rows := by
  rcases table with ⟨rows, summary⟩
  rw [subtableCount, flatten, List.countP_append, countP_flattenRows, countP_flattenSummary]
  rfl

end Rows
end ReportSegments
