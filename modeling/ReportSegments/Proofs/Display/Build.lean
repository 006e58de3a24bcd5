import ReportSegments.Proofs.Display.Growth

/-!
This module contains the trees that arise when rows are added and tables are opened one after the
other, and where a tree has its rows and its tables their parents after one such change.
-/

namespace ReportSegments
namespace Display
namespace Tree

inductive Change where
  | push (id : Nat) (row : Row)
  | openBelow (place : RowRef)
deriving DecidableEq, Repr

/--
The tree after a change. One at a table or a row that is not there changes nothing.
-/
def change (tree : Tree) : Change → Tree
  | .push id row => (tree.push? id row).elim tree Prod.fst
  | .openBelow place => (tree.openBelow? place).elim tree Prod.fst

def build (changes : List Change) : Tree :=
  changes.foldl change empty

variable {tree : Tree} {id : Nat} {place : RowRef}

theorem parent?_eq_none (h : tree.tables.length ≤ id) : tree.parent? id = none := by
  unfold parent?
  rw [List.getElem?_eq_none h]
  rfl

theorem lt_length_of_parent? (h : tree.parent? id = some place) : id < tree.tables.length := by
  apply Decidable.byContradiction
  intro hle
  rw [parent?_eq_none (by omega)] at h
  contradiction

theorem row?_of_end? (h : tree.end? id = some place) : tree.row? place = none := by
  obtain ⟨table, htable, rfl⟩ := Option.map_eq_some_iff.1 h
  unfold row? rowIn?
  dsimp
  rw [htable, Option.bind_some, List.getElem?_eq_none (Nat.le_refl _)]

theorem parent?_push (tree : Tree) (id : Nat) (row : Row) (k : Nat) :
    (tree.push id row).parent? k = tree.parent? k := by
  unfold parent? push
  dsimp
  rw [getElem?_modifyRows]
  cases tree.tables[k]? with
  | none => rfl
  | some table =>
    rw [Option.map_some, Option.bind_some, Option.bind_some]
    split <;> rfl

theorem row?_push_eq (tree : Tree) (id : Nat) (row : Row) (place : RowRef) :
    (tree.push id row).row? place = if tree.end? id = some place then some row else tree.row? place := by
  rcases place with ⟨k, i⟩
  unfold row? rowIn? push end?
  dsimp
  rw [getElem?_modifyRows]
  by_cases hk : id = k
  . subst hk
    cases tree.tables[id]? with
    | none => rfl
    | some table =>
      simp only [Option.map_some, Option.bind_some, if_pos, Option.some_inj, RowRef.mk.injEq,
        true_and]
      split
      . next hi =>
        rw [← hi, List.getElem?_concat_length]
      . next hi =>
        rw [List.getElem?_append]
        split
        . rfl
        . rw [List.getElem?_eq_none, List.getElem?_eq_none]
          . omega
          . rw [List.length_singleton]
            omega
  . simp only [if_neg hk]
    rw [if_neg]
    . cases tree.tables[k]? <;> rfl
    . intro hend
      obtain ⟨table, -, heq⟩ := Option.map_eq_some_iff.1 hend
      exact hk (congrArg RowRef.table heq)

theorem length_openBelow (tree : Tree) (place : RowRef) (h : (tree.row? place).isSome) :
    (tree.openBelow place h).tables.length = tree.tables.length + 1 := by
  rw [tables_openBelow, List.length_append, length_modifyRows]
  rfl

theorem parent?_openBelow (tree : Tree) (place : RowRef) (h : (tree.row? place).isSome) (k : Nat) :
    (tree.openBelow place h).parent? k =
      if k = tree.tables.length then some place else tree.parent? k := by
  unfold parent? openBelow
  dsimp
  split
  . next hk =>
    rw [hk, List.getElem?_append_right, length_modifyRows, Nat.sub_self]
    . rfl
    . exact Nat.le_of_eq (length_modifyRows _ _ _)
  . next hk =>
    by_cases hlt : k < tree.tables.length
    . rw [List.getElem?_append_left, getElem?_modifyRows]
      . cases tree.tables[k]? with
        | none => rfl
        | some table =>
          rw [Option.map_some, Option.bind_some, Option.bind_some]
          split <;> rfl
      . rw [length_modifyRows]
        exact hlt
    . rw [List.getElem?_eq_none, List.getElem?_eq_none]
      . omega
      . rw [List.length_append, length_modifyRows, List.length_singleton]
        omega

theorem row?_openBelow (tree : Tree) (place : RowRef) (h : (tree.row? place).isSome)
    (other : RowRef) :
    (tree.openBelow place h).row? other =
      (tree.row? other).map fun row =>
        if other = place then { row with subtable := some tree.tables.length } else row := by
  rcases place with ⟨k, i⟩
  rcases other with ⟨k', i'⟩
  unfold row? rowIn? openBelow
  dsimp
  by_cases hlt : k' < tree.tables.length
  . rw [List.getElem?_append_left, getElem?_modifyRows]
    . cases tree.tables[k']? with
      | none => rfl
      | some table =>
        simp only [Option.map_some, Option.bind_some, RowRef.mk.injEq]
        by_cases hk : k = k'
        . subst hk
          rw [if_pos rfl, List.getElem?_modify]
          simp only [true_and, eq_comm]
          rfl
        . rw [if_neg hk]
          simp [Ne.symm hk]
    . rw [length_modifyRows]
      exact hlt
  -- The new table has no row, so where there was no table there is still no row.
  . rw [List.getElem?_eq_none (Nat.le_of_not_lt hlt), Option.bind_none, Option.map_none,
      List.getElem?_append_right, length_modifyRows]
    . cases k' - tree.tables.length <;> rfl
    . rw [length_modifyRows]
      omega

end Tree
end Display
end ReportSegments
