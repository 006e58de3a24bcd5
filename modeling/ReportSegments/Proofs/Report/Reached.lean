import Mathlib.Data.List.Basic
import ReportSegments.Proofs.Report.WalkedRows

/-!
This module contains that the walk comes to the rows at the paths without a summary row before their
end, to each of them once.
-/

namespace ReportSegments
namespace Rows

/--
The place in its table and the row at a path that the walk comes to.
-/
def reached? (entry : List RowId × Row) : Option (RowId × Row) :=
  if isWalked entry.1 then entry.1.getLast?.map fun id => (id, entry.2) else none

/--
The rows that the walk comes to, in the order in which they are shown.
-/
def reachedRows (table : Table) : List (RowId × Row) :=
  table.flatten.filterMap reached?

theorem eq_of_reached? {entry : List RowId × Row} {id : RowId} {row : Row}
    (h : reached? entry = some (id, row)) : row = entry.2 := by
  unfold reached? at h
  split at h
  . obtain ⟨last, -, heq⟩ := Option.map_eq_some_iff.1 h
    exact (Prod.mk.inj heq).2.symm
  . contradiction

theorem reached?_cons_index (i : Nat) {path : List RowId} (hpath : path ≠ []) (row : Row) :
    reached? (.index i :: path, row) = reached? (path, row) := by
  unfold reached? isWalked
  rw [List.dropLast_cons_of_ne_nil hpath, List.getLast?_cons_of_ne_nil hpath]
  rfl

theorem reached?_cons_summary {path : List RowId} (hpath : path ≠ []) (row : Row) :
    reached? (.summary :: path, row) = none := by
  unfold reached? isWalked
  rw [List.dropLast_cons_of_ne_nil hpath]
  rfl

theorem filterMap_flattenRow_index (i : Nat) (row : Row) :
    (flattenRow (.index i) row).filterMap reached? =
      (.index i, row) :: row.subtable.elim [] reachedRows := by
  have hhead : reached? ([.index i], row) = some (.index i, row) := rfl
  rw [flattenRow_eq, List.filterMap_cons_some hhead, List.filterMap_map]
  congr 1
  cases row.subtable with
  | none => rfl
  | some subtable =>
    apply List.filterMap_congr
    intro entry hentry
    exact reached?_cons_index i (ne_nil_of_mem_flatten hentry) entry.2

theorem filterMap_flattenRow_summary (row : Row) :
    (flattenRow .summary row).filterMap reached? = [(.summary, row)] := by
  have hhead : reached? ([.summary], row) = some (.summary, row) := rfl
  rw [flattenRow_eq, List.filterMap_cons_some hhead, List.filterMap_map]
  congr 1
  rw [List.filterMap_eq_nil_iff]
  intro entry hentry
  cases hsub : row.subtable with
  | none => simp [hsub] at hentry
  | some subtable =>
    rw [hsub] at hentry
    exact reached?_cons_summary (ne_nil_of_mem_flatten hentry) entry.2

/--
The walk takes the rows of a list before everything below them; a path is followed by the paths
below it.
-/
theorem walkRows_perm_flattenRows (i : Nat) (rows : List Row)
    (ih : ∀ row ∈ rows, ∀ subtable, row.subtable = some subtable →
      subtable.walkedRows.Perm subtable.reachedRows) :
    ((rows.zipIdx i).map (fun entry => (RowId.index entry.2, entry.1)) ++
        (walkRows rows).flatMap withSummary).Perm
      ((flattenRows i rows).filterMap reached?) := by
  induction rows generalizing i with
  | nil => exact .refl _
  | cons row rows ihrows =>
    rw [List.forall_mem_cons] at ih
    have hbelow : (row.subtable.elim [] walkedRows).Perm (row.subtable.elim [] reachedRows) := by
      cases hsub : row.subtable with
      | none => exact .refl _
      | some subtable => exact ih.1 subtable hsub
    rw [List.zipIdx_cons, List.map_cons, walkRows, flattenRows, List.flatMap_append,
      flatMap_walkRow, List.filterMap_append, filterMap_flattenRow_index, List.cons_append,
      List.cons_append]
    apply List.Perm.cons
    exact (List.perm_append_comm_assoc _ _ _).trans (hbelow.append (ihrows (i + 1) ih.2))

theorem filterMap_flattenSummary (summary : Option Row) :
    (flattenSummary summary).filterMap reached? =
      summary.toList.map fun row => (.summary, row) := by
  cases summary with
  | none => rfl
  | some row => exact filterMap_flattenRow_summary row

theorem walkedRows_perm (table : Table) : table.walkedRows.Perm table.reachedRows := by
  induction table using nested_induction with
  | step rows summary ih _ =>
    have hrows := walkRows_perm_flattenRows 0 rows ih
    unfold walkedRows reachedRows
    rw [flatten, List.filterMap_append, filterMap_flattenSummary, walk, List.flatMap_cons,
      withSummary, List.append_assoc]
    dsimp only
    generalize (summary.toList.map fun row => (RowId.summary, row)) = last
    refine List.Perm.trans ?_ (hrows.append_right last)
    rw [List.append_assoc]
    apply List.Perm.append_left
    exact List.perm_append_comm

theorem countP_walkedRows (p : RowId × Row → Bool) (table : Table) :
    table.walkedRows.countP p = table.flatten.countP fun entry => (reached? entry).any p := by
  rw [(walkedRows_perm table).countP_eq, reachedRows, List.countP_filterMap]
  apply List.countP_congr
  intro entry hentry
  cases reached? entry <;> rfl

theorem length_walkedRows (table : Table) :
    table.walkedRows.length = table.flatten.countP fun entry => isWalked entry.1 := by
  rw [(walkedRows_perm table).length_eq, reachedRows, List.length_filterMap_eq_countP]
  apply List.countP_congr
  intro entry hentry
  have hpath := ne_nil_of_mem_flatten hentry
  unfold reached?
  rw [List.getLast?_eq_some_getLast hpath]
  cases isWalked entry.1 <;> simp

end Rows
end ReportSegments
