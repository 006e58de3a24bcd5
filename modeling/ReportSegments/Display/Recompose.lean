import ReportSegments.Display.Tree
import ReportSegments.Expression.Clause

/-!
This module contains the full labels of displayed rows: the labels of all rows above a row and its
own. Above a row stands its parent in the flat hierarchy of its table, or else the row that opened
the table.
-/

namespace ReportSegments
namespace Display

/--
There is no row at a place.
-/
structure UnknownRow where
  place : RowRef
deriving DecidableEq, Repr

def UnknownRow.message (error : UnknownRow) : String :=
  s!"No displayed row at table {error.place.table}, row {error.place.row}"

/--
The last of the first `n` rows that has the given level and is no placeholder.
-/
def lastAtLevel? (rows : List Row) (level : UInt32) : Nat → Option Nat
  | 0 => none
  | n + 1 =>
    match rows[n]? with
    | some row =>
      if !row.noData && row.level == some level then some n else lastAtLevel? rows level n
    | none => lastAtLevel? rows level n

theorem lastAtLevel?_lt {rows : List Row} {level : UInt32} {n i : Nat}
    (h : lastAtLevel? rows level n = some i) : i < n := by
  induction n with
  | zero => contradiction
  | succ n ih =>
    unfold lastAtLevel? at h
    split at h
    . split at h
      . obtain rfl := Option.some.inj h
        exact Nat.lt_succ_self n
      . exact Nat.lt_succ_of_lt (ih h)
    . exact Nat.lt_succ_of_lt (ih h)

namespace Tree

/--
The nearest row in front of a place in the same table that has the given level and is no
placeholder.
-/
def levelParent? (tree : Tree) (place : RowRef) (level : UInt32) : Option RowRef :=
  tree.tables[place.table]?.bind fun table =>
    (lastAtLevel? table.rows level place.row).map fun row => ⟨place.table, row⟩

def above? (tree : Tree) (place : RowRef) (row : Row) : Option RowRef :=
  match row.level.bind fun level => if 0 < level then tree.levelParent? place (level - 1) else none with
  | some above => some above
  | none => tree.parent? place.table

theorem above?_lt {tree : Tree} {place above : RowRef} {row : Row}
    (h : tree.above? place row = some above) :
    above.table < place.table ∨ above.table = place.table ∧ above.row < place.row := by
  unfold above? at h
  split at h
  . next found hlevel =>
    obtain ⟨level, -, hlevel⟩ := Option.bind_eq_some_iff.1 hlevel
    split at hlevel
    . obtain ⟨table, -, hlevel⟩ := Option.bind_eq_some_iff.1 hlevel
      obtain ⟨i, hi, rfl⟩ := Option.map_eq_some_iff.1 hlevel
      obtain rfl := Option.some.inj h
      exact Or.inr ⟨rfl, lastAtLevel?_lt hi⟩
    . contradiction
  . obtain ⟨table, htable, hparent⟩ := Option.bind_eq_some_iff.1 h
    exact Or.inl (tree.opened _ _ _ htable hparent).1

/--
The full label of a row: the labels of the rows above it from the outermost on and its own, with a
separator between them. `suffix` is what stands behind the label of this row already.
-/
def recompose (tree : Tree) (separator : String) (place : RowRef) (suffix : String := "") :
    Except UnknownRow String :=
  match tree.row? place with
  | none => .error ⟨place⟩
  | some row =>
    match _h : tree.above? place row with
    | some above => tree.recompose separator above (separator ++ row.text ++ suffix)
    | none => .ok (row.text ++ suffix)
termination_by (place.table, place.row)
decreasing_by
  rcases above?_lt _h with h | ⟨h, h'⟩
  . exact Prod.Lex.left _ _ h
  . rw [h]
    exact Prod.Lex.right _ h'

/--
The expression that asks for the full label of a row.
-/
def segmentFor (tree : Tree) (separator : String) (place : RowRef) (segment operator : String) :
    Except UnknownRow String :=
  (tree.recompose separator place).map (Clause.buildEscaped segment operator)

end Tree
end Display
end ReportSegments
