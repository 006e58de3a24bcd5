import ReportSegments.Proofs.Report.Addresses

/-!
This module contains where the tables of the walk are open: the paths of indices that lead to them
through the sub-tables of regular rows, in the order of the walk.
-/

namespace ReportSegments
namespace Rows

mutual

/--
The paths of the tables of the walk. A table has the indices of the rows below which it is open.
-/
def openings : Table → List (List Nat)
  | ⟨rows, _⟩ => [] :: openingsRows 0 rows

/--
The paths below a list of rows that starts at place `i`.
-/
def openingsRows (i : Nat) : List Row → List (List Nat)
  | [] => []
  | row :: rows => (openingsRow row).map (i :: ·) ++ openingsRows (i + 1) rows

def openingsRow : Row → List (List Nat)
  | ⟨_, _, _, subtable, _⟩ => openingsSubtable subtable

def openingsSubtable : Option Table → List (List Nat)
  | none => []
  | some table => openings table

end

/--
The table at a path of indices.
-/
def tableAt? (table : Table) : List Nat → Option Table
  | [] => some table
  | i :: path => (table.rows[i]?.bind Row.subtable).bind fun subtable => subtable.tableAt? path

theorem openingsRow_eq (row : Row) : openingsRow row = row.subtable.elim [] openings := by
  rcases row with ⟨label, columns, metadata, subtable, level⟩
  cases subtable <;> rfl

theorem openingsRows_eq (i : Nat) (rows : List Row) :
    openingsRows i rows =
      (rows.zipIdx i).flatMap fun entry => (openingsRow entry.1).map (entry.2 :: ·) := by
  induction rows generalizing i with
  | nil => rfl
  | cons row rows ih => rw [openingsRows, List.zipIdx_cons, List.flatMap_cons, ih]

theorem openings_eq (table : Table) : table.openings = [] :: openingsRows 0 table.rows := by
  cases table
  rfl

theorem mem_openingsRow_iff {row : Row} {path : List Nat} :
    path ∈ openingsRow row ↔ ∃ subtable, row.subtable = some subtable ∧ path ∈ subtable.openings := by
  rw [openingsRow_eq]
  cases row.subtable <;> simp

theorem cons_mem_openings_iff {table : Table} {i : Nat} {path : List Nat} :
    i :: path ∈ table.openings ↔
      ∃ row subtable, table.rows[i]? = some row ∧ row.subtable = some subtable ∧
        path ∈ subtable.openings := by
  rw [openings_eq, openingsRows_eq]
  simp [List.mem_zipIdx_iff_getElem?, mem_openingsRow_iff]

/--
There is a table at a path just if the walk comes to it there.
-/
theorem mem_openings_iff {table : Table} {path : List Nat} :
    path ∈ table.openings ↔ ∃ opened, table.tableAt? path = some opened := by
  induction path generalizing table with
  | nil =>
    rw [openings_eq]
    exact iff_of_true List.mem_cons_self ⟨table, rfl⟩
  | cons i path ih =>
    rw [cons_mem_openings_iff]
    constructor
    . rintro ⟨row, subtable, hrow, hsub, hpath⟩
      obtain ⟨opened, hopened⟩ := ih.1 hpath
      refine ⟨opened, ?_⟩
      rw [tableAt?, hrow, Option.bind_some, hsub, Option.bind_some, hopened]
    . rintro ⟨opened, hopened⟩
      obtain ⟨subtable, hsub, hopened⟩ := Option.bind_eq_some_iff.1 hopened
      obtain ⟨row, hrow, hsub⟩ := Option.bind_eq_some_iff.1 hsub
      exact ⟨row, subtable, hrow, hsub, ih.2 ⟨opened, hopened⟩⟩

theorem map_tableAt?_openingsRow {table : Table} {i : Nat} {row : Row}
    (hrow : table.rows[i]? = some row)
    (ih : ∀ subtable, row.subtable = some subtable →
      subtable.openings.map subtable.tableAt? = subtable.walk.map some) :
    ((openingsRow row).map (i :: ·)).map table.tableAt? = (walkRow row).map some := by
  rw [openingsRow_eq, walkRow_eq, List.map_map]
  cases hsub : row.subtable with
  | none => rfl
  | some subtable =>
    rw [Option.elim_some, Option.elim_some, ← ih subtable hsub]
    apply List.map_congr_left
    intro path _
    rw [Function.comp_apply, tableAt?, hrow, Option.bind_some, hsub, Option.bind_some]

theorem map_tableAt?_openings (table : Table) :
    table.openings.map table.tableAt? = table.walk.map some := by
  induction table using nested_induction with
  | step rows summary ih _ =>
    rw [openings_eq, openingsRows_eq, walk, walkRows_eq, List.map_cons, List.map_cons,
      List.map_flatMap, List.map_flatMap]
    congr 1
    conv_rhs => rw [← List.zipIdx_map_fst 0 rows, List.flatMap_map]
    apply List.flatMap_congr
    rintro ⟨row, i⟩ hmem
    have hrow := List.mem_zipIdx_iff_getElem?.1 hmem
    exact map_tableAt?_openingsRow hrow (ih row (List.mem_of_getElem? hrow))

theorem length_openings (table : Table) : table.openings.length = table.walk.length := by
  have := congrArg List.length table.map_tableAt?_openings
  rw [List.length_map, List.length_map] at this
  exact this

/--
The walk comes to a table before those below it, and to what is below an earlier row before what is
below a later one.
-/
theorem pairwise_openings (table : Table) : table.openings.Pairwise (List.Lex (· < ·)) := by
  induction table using nested_induction with
  | step rows summary ih _ =>
    rw [openings_eq, openingsRows_eq, List.pairwise_cons, List.pairwise_flatMap]
    refine ⟨?_, ?_, ?_⟩
    . intro path hpath
      obtain ⟨entry, -, hpath⟩ := List.mem_flatMap.1 hpath
      obtain ⟨path, -, rfl⟩ := List.mem_map.1 hpath
      exact .nil
    . rintro ⟨row, i⟩ hmem
      rw [List.pairwise_map, openingsRow_eq]
      cases hsub : row.subtable with
      | none => exact .nil
      | some subtable =>
        have hrow := List.mem_of_getElem? (List.mem_zipIdx_iff_getElem?.1 hmem)
        exact (ih row hrow subtable hsub).imp .cons
    . apply (pairwise_zipIdx 0 rows).imp
      intro entry later hlt path hpath path' hpath'
      obtain ⟨path, -, rfl⟩ := List.mem_map.1 hpath
      obtain ⟨path', -, rfl⟩ := List.mem_map.1 hpath'
      exact .rel hlt

example :
    let deep : Table := { rows := [{}, { subtable := some {} }] }
    let table : Table := {
      rows := [{ subtable := some deep }, { subtable := some {} }]
      summary := some { subtable := some deep } }
    table.openings = [[], [0], [0, 1], [1]] := by
  decide

end Rows
end ReportSegments
