import ReportSegments.Display.Tree

/-!
This module contains what adding a row to a displayed table does to all tables: the table gets a row
at its end, tables may be opened behind the others, and nothing else changes.
-/

namespace ReportSegments
namespace Display

/--
Whether tables come from others by adding rows at the end of the table `id` and opening tables.
-/
structure Grows (tables tables' : List Table) (id rows opened : Nat) : Prop where
  length : tables'.length = tables.length + opened
  grown : ∃ new : List Row, new.length = rows ∧
    tables'[id]? = tables[id]?.map fun table => { table with rows := table.rows ++ new }
  kept : ∀ k, k < tables.length → k ≠ id → tables'[k]? = tables[k]?

namespace Grows

variable {tables tables' tables'' : List Table} {id rows rows' opened opened' : Nat}

theorem refl (tables : List Table) (id : Nat) : Grows tables tables id 0 0 := by
  refine ⟨rfl, ⟨[], rfl, ?_⟩, fun _ _ _ => rfl⟩
  simp

theorem trans (h : Grows tables tables' id rows opened)
    (h' : Grows tables' tables'' id rows' opened') :
    Grows tables tables'' id (rows + rows') (opened + opened') := by
  obtain ⟨new, hnew, hgrown⟩ := h.grown
  obtain ⟨new', hnew', hgrown'⟩ := h'.grown
  refine ⟨?_, ⟨new ++ new', ?_, ?_⟩, ?_⟩
  . rw [h'.length, h.length, Nat.add_assoc]
  . rw [List.length_append, hnew, hnew']
  . rw [hgrown', hgrown, Option.map_map]
    simp [Function.comp_def]
  . intro k hk hne
    have hk' : k < tables'.length := by
      have := h.length
      omega
    rw [h'.kept k hk' hne, h.kept k hk hne]

theorem trans_new (h : Grows tables tables' id rows opened) {new : Nat} (hid : id < tables.length)
    (hnew : tables.length ≤ new) (h' : Grows tables' tables'' new rows' opened') :
    Grows tables tables'' id rows (opened + opened') := by
  -- The tables that were there before are not the new one, so they stay.
  have hkept : ∀ k, k < tables.length → tables''[k]? = tables'[k]? := by
    intro k hk
    have := h.length
    apply h'.kept <;> omega
  refine ⟨?_, ?_, ?_⟩
  . rw [h'.length, h.length, Nat.add_assoc]
  . rw [hkept id hid]
    exact h.grown
  . intro k hk hne
    rw [hkept k hk, h.kept k hk hne]

theorem table (h : Grows tables tables' id rows opened) {shown : Table}
    (hshown : tables[id]? = some shown) :
    ∃ shown', tables'[id]? = some shown' ∧ shown'.parent = shown.parent ∧
      shown.rows <+: shown'.rows ∧ shown'.rows.length = shown.rows.length + rows := by
  obtain ⟨new, hnew, hgrown⟩ := h.grown
  rw [hshown] at hgrown
  refine ⟨_, hgrown, rfl, List.prefix_append _ _, ?_⟩
  rw [List.length_append, hnew]

theorem rowIn? (h : Grows tables tables' id rows opened) {row : Nat} {shown : Row}
    (hrow : Display.rowIn? tables ⟨id, row⟩ = some shown) :
    Display.rowIn? tables' ⟨id, row⟩ = some shown := by
  obtain ⟨found, hfound, hget⟩ := Option.bind_eq_some_iff.1 hrow
  obtain ⟨found', hfound', -, ⟨new, hnew⟩, -⟩ := h.table hfound
  obtain ⟨hlt, -⟩ := List.getElem?_eq_some_iff.1 hget
  unfold Display.rowIn?
  rw [hfound', Option.bind_some, ← hnew, List.getElem?_append_left hlt, hget]

theorem getElem? (h : Grows tables tables' id rows opened) {k : Nat} (hne : k ≠ id) {shown : Table}
    (hshown : tables[k]? = some shown) : tables'[k]? = some shown := by
  obtain ⟨hlt, -⟩ := List.getElem?_eq_some_iff.1 hshown
  rw [h.kept k hlt hne, hshown]

end Grows

namespace Tree

theorem grows_push (tree : Tree) (id : Nat) (row : Row) :
    Grows tree.tables (tree.push id row).tables id 1 0 := by
  unfold push
  refine ⟨?_, ⟨[row], rfl, ?_⟩, ?_⟩
  . rw [length_modifyRows, Nat.add_zero]
  . rw [getElem?_modifyRows]
    simp only [if_pos]
  . intro k _ hne
    rw [getElem?_modifyRows]
    simp only [if_neg (Ne.symm hne), Option.map_id']

theorem tables_openBelow (tree : Tree) (place : RowRef) (h : (tree.row? place).isSome) :
    (tree.openBelow place h).tables =
      modifyRows tree.tables place.table
        (·.modify place.row fun row => { row with subtable := some tree.tables.length }) ++
        [{ parent := some place }] := rfl

theorem tables_openBelow_push {tree : Tree} {id : Nat} {shown : Table}
    (hshown : tree.tables[id]? = some shown) (row : Row)
    (h : ((tree.push id row).row? ⟨id, shown.rows.length⟩).isSome) :
    ((tree.push id row).openBelow ⟨id, shown.rows.length⟩ h).tables =
      (tree.push id { row with subtable := some tree.tables.length }).tables ++
        [{ parent := some ⟨id, shown.rows.length⟩ }] := by
  rw [tables_openBelow]
  unfold push
  dsimp only
  rw [length_modifyRows]
  congr 1
  apply List.ext_getElem?
  intro k
  simp only [getElem?_modifyRows, Option.map_map]
  by_cases hk : id = k
  . subst hk
    have hmodify := List.modifyTailIdx_add
      (List.modifyHead fun row : Row => { row with subtable := some tree.tables.length }) 0
      shown.rows [row]
    rw [hshown]
    simp only [Option.map_some, Function.comp_apply, if_pos, Option.some_inj, Table.mk.injEq,
      and_true]
    exact hmodify
  . simp only [if_neg hk]
    cases tree.tables[k]? <;> rfl

theorem push?_eq {tree : Tree} {id : Nat} {shown : Table} (hshown : tree.tables[id]? = some shown)
    (row : Row) : tree.push? id row = some (tree.push id row, ⟨id, shown.rows.length⟩) := by
  unfold push? end?
  rw [hshown]
  rfl

theorem row?_push {tree : Tree} {id : Nat} {shown : Table} (hshown : tree.tables[id]? = some shown)
    (row : Row) : (tree.push id row).row? ⟨id, shown.rows.length⟩ = some row := by
  unfold row? rowIn? push
  rw [getElem?_modifyRows, hshown]
  simp

theorem getElem?_openBelow_push {tree : Tree} {id : Nat} {shown : Table}
    (hshown : tree.tables[id]? = some shown) (row : Row)
    (h : ((tree.push id row).row? ⟨id, shown.rows.length⟩).isSome) :
    ((tree.push id row).openBelow ⟨id, shown.rows.length⟩ h).tables[tree.tables.length]? =
      some { parent := some ⟨id, shown.rows.length⟩ } := by
  have hlength := (tree.grows_push id { row with subtable := some tree.tables.length }).length
  rw [tables_openBelow_push hshown, List.getElem?_append_right (by omega), hlength]
  simp

theorem grows_openBelow_push {tree : Tree} {id : Nat} {shown : Table}
    (hshown : tree.tables[id]? = some shown) (row : Row)
    (h : ((tree.push id row).row? ⟨id, shown.rows.length⟩).isSome) :
    Grows tree.tables ((tree.push id row).openBelow ⟨id, shown.rows.length⟩ h).tables id 1 1 := by
  have hpush := tree.grows_push id { row with subtable := some tree.tables.length }
  have hlength := hpush.length
  obtain ⟨hid, -⟩ := List.getElem?_eq_some_iff.1 hshown
  rw [tables_openBelow_push hshown]
  refine ⟨?_, ?_, ?_⟩
  . rw [List.length_append, hlength]
    rfl
  . rw [List.getElem?_append_left (by omega)]
    exact hpush.grown
  . intro k hk hne
    rw [List.getElem?_append_left (by omega)]
    exact hpush.kept k hk hne

theorem row?_openBelow_push {tree : Tree} {id : Nat} {shown : Table}
    (hshown : tree.tables[id]? = some shown) (row : Row)
    (h : ((tree.push id row).row? ⟨id, shown.rows.length⟩).isSome) :
    ((tree.push id row).openBelow ⟨id, shown.rows.length⟩ h).row? ⟨id, shown.rows.length⟩ =
      some { row with subtable := some tree.tables.length } := by
  have hlength := (tree.grows_push id { row with subtable := some tree.tables.length }).length
  obtain ⟨hid, -⟩ := List.getElem?_eq_some_iff.1 hshown
  have hrow := row?_push hshown { row with subtable := some tree.tables.length }
  unfold row? rowIn? at hrow ⊢
  dsimp only at hrow ⊢
  rw [tables_openBelow_push hshown, List.getElem?_append_left (by omega)]
  exact hrow

end Tree
end Display
end ReportSegments
