import ReportSegments.Display.Recompose

/-!
This module contains which row stands above another one, said without the search that finds it: the
nearest row of the next higher level in front of it, or else the row that opened its table.
-/

namespace ReportSegments
namespace Display

def HasLevel (rows : List Row) (level : UInt32) (i : Nat) : Prop :=
  ∃ row, rows[i]? = some row ∧ row.noData = false ∧ row.level = some level

theorem lastAtLevel?_succ_of_hasLevel {rows : List Row} {level : UInt32} {n : Nat}
    (h : HasLevel rows level n) : lastAtLevel? rows level (n + 1) = some n := by
  obtain ⟨row, hrow, hdata, hlevel⟩ := h
  rw [lastAtLevel?, hrow]
  dsimp only
  rw [hdata, hlevel, beq_self_eq_true, if_pos]
  rfl

theorem lastAtLevel?_succ_of_not_hasLevel {rows : List Row} {level : UInt32} {n : Nat}
    (h : ¬HasLevel rows level n) :
    lastAtLevel? rows level (n + 1) = lastAtLevel? rows level n := by
  rw [lastAtLevel?]
  split
  . next row hrow =>
    rw [if_neg]
    intro hfound
    rw [Bool.and_eq_true, Bool.not_eq_true', beq_iff_eq] at hfound
    exact h ⟨row, hrow, hfound⟩
  . rfl

theorem lastAtLevel?_eq_some_iff {rows : List Row} {level : UInt32} {n i : Nat} :
    lastAtLevel? rows level n = some i ↔
      i < n ∧ HasLevel rows level i ∧ ∀ j, i < j → j < n → ¬HasLevel rows level j := by
  induction n with
  | zero => simp [lastAtLevel?]
  | succ n ih =>
    by_cases hlast : HasLevel rows level n
    . rw [lastAtLevel?_succ_of_hasLevel hlast, Option.some_inj]
      constructor
      . intro h
        subst h
        exact ⟨by omega, hlast, by omega⟩
      . rintro ⟨hlt, -, hno⟩
        apply Decidable.byContradiction
        intro hne
        exact hno n (by omega) (by omega) hlast
    . rw [lastAtLevel?_succ_of_not_hasLevel hlast, ih]
      constructor
      . rintro ⟨hlt, hlevel, hno⟩
        refine ⟨by omega, hlevel, ?_⟩
        intro j hj hjn
        by_cases hjn' : j = n
        . rw [hjn']
          exact hlast
        . exact hno j hj (by omega)
      . rintro ⟨hlt, hlevel, hno⟩
        have hne : i ≠ n := by
          intro h
          rw [h] at hlevel
          exact hlast hlevel
        exact ⟨by omega, hlevel, fun j hj hjn => hno j hj (by omega)⟩

namespace Tree

variable {tree : Tree} {place above : RowRef}

def AtLevel (tree : Tree) (place : RowRef) (level : UInt32) : Prop :=
  ∃ row, tree.row? place = some row ∧ row.noData = false ∧ row.level = some level

/--
Whether `above` is the nearest row in front of the row at `place`, in the same table, that is one
level higher.
-/
def IsLevelParent (tree : Tree) (place above : RowRef) : Prop :=
  ∃ row level, tree.row? place = some row ∧ row.level = some level ∧ 0 < level ∧
    above.table = place.table ∧ above.row < place.row ∧ tree.AtLevel above (level - 1) ∧
    ∀ i, above.row < i → i < place.row → ¬tree.AtLevel ⟨place.table, i⟩ (level - 1)

/--
Whether the row at `above` is the next one above the row at `place`.
-/
def IsAbove (tree : Tree) (place above : RowRef) : Prop :=
  tree.IsLevelParent place above ∨
    (∀ other, ¬tree.IsLevelParent place other) ∧ tree.parent? place.table = some above

theorem exists_table_of_row? {row : Row} (h : tree.row? place = some row) :
    ∃ table, tree.tables[place.table]? = some table ∧ table.rows[place.row]? = some row :=
  Option.bind_eq_some_iff.1 h

theorem atLevel_iff {id : Nat} {table : Table} (htable : tree.tables[id]? = some table) (i : Nat)
    (level : UInt32) : tree.AtLevel ⟨id, i⟩ level ↔ HasLevel table.rows level i := by
  unfold AtLevel HasLevel row? rowIn?
  rw [htable, Option.bind_some]

theorem levelParent?_eq_some_iff {row : Row} (hrow : tree.row? place = some row)
    (level : UInt32) :
    tree.levelParent? place level = some above ↔
      above.table = place.table ∧ above.row < place.row ∧ tree.AtLevel above level ∧
        ∀ i, above.row < i → i < place.row → ¬tree.AtLevel ⟨place.table, i⟩ level := by
  obtain ⟨table, htable, -⟩ := exists_table_of_row? hrow
  have hlevels : ∀ i, tree.AtLevel ⟨place.table, i⟩ level ↔ HasLevel table.rows level i := by
    intro i
    exact atLevel_iff htable i level
  rcases above with ⟨id, j⟩
  unfold levelParent?
  rw [htable, Option.bind_some, Option.map_eq_some_iff]
  simp only [hlevels, RowRef.mk.injEq]
  constructor
  . rintro ⟨i, hfound, rfl, rfl⟩
    rw [lastAtLevel?_eq_some_iff, ← hlevels] at hfound
    exact ⟨rfl, hfound⟩
  . rintro ⟨rfl, hfound⟩
    rw [hlevels, ← lastAtLevel?_eq_some_iff] at hfound
    exact ⟨j, hfound, rfl, rfl⟩

theorem isLevelParent_iff {row : Row} (hrow : tree.row? place = some row) :
    tree.IsLevelParent place above ↔
      (row.level.bind fun level =>
        if 0 < level then tree.levelParent? place (level - 1) else none) = some above := by
  rw [Option.bind_eq_some_iff]
  constructor
  . intro ⟨row', level, hrow', hlevel, hpos, hrest⟩
    rw [hrow, Option.some_inj] at hrow'
    subst hrow'
    refine ⟨level, hlevel, ?_⟩
    rw [if_pos hpos, levelParent?_eq_some_iff hrow]
    exact hrest
  . intro ⟨level, hlevel, hparent⟩
    split at hparent
    . next hpos =>
      rw [levelParent?_eq_some_iff hrow] at hparent
      exact ⟨row, level, hrow, hlevel, hpos, hparent⟩
    . contradiction

theorem isAbove_iff {row : Row} (hrow : tree.row? place = some row) :
    tree.IsAbove place above ↔ tree.above? place row = some above := by
  unfold IsAbove above?
  simp only [isLevelParent_iff hrow]
  split
  . next found hfound =>
    rw [hfound]
    constructor
    . intro h
      cases h with
      | inl h => exact h
      | inr h => exact absurd rfl (h.1 found)
    . exact .inl
  . next hnone =>
    rw [hnone]
    simp

end Tree
end Display
end ReportSegments
