import Mathlib.Data.List.Induction
import ReportSegments.Proofs.Display.Shows

/-!
This module contains where the rows of a report's table are in the tree that displays it: a path of
indices leads to the displayed row of the row at that path, and to no other row than these and the
placeholders of empty sub-tables.
-/

namespace ReportSegments
namespace Display

/--
What is shown of a row of a report.
-/
structure Row.Shows (rules : LayoutRules) (shown : Row) (row : ReportSegments.Row) : Prop where
  noData : shown.noData = false
  text : shown.text = row.label
  level : shown.level = row.level
  opened : shown.subtable.isSome = row.subtable.isSome
  label : shown.label =
    match rules.maxLabelLength with
    | none => row.label
    | some limit =>
      if row.label.length ≤ limit then
        row.label
      else
        String.ofList (row.label.toList.take limit) ++ rules.truncationMarker

variable {rules : LayoutRules} {tables : List Table}

theorem Row.shows_ofLabel (rules : LayoutRules) (row : ReportSegments.Row) {below : Option Nat}
    (hbelow : below.isSome = row.subtable.isSome) :
    Row.Shows rules { Row.ofLabel rules row.label row.level with subtable := below } row := by
  unfold Row.ofLabel
  split
  . next limit hlimit =>
    split
    . next hlt =>
      refine ⟨rfl, rfl, rfl, hbelow, ?_⟩
      rw [hlimit]
      simp only [if_neg (Nat.not_le_of_lt hlt)]
    . next hle =>
      refine ⟨rfl, rfl, rfl, hbelow, ?_⟩
      rw [hlimit]
      simp only [if_pos (Nat.le_of_not_lt hle)]
  . next hlimit =>
    refine ⟨rfl, rfl, rfl, hbelow, ?_⟩
    rw [hlimit]

theorem ShowsRow.exists_shown {place : RowRef} {row : ReportSegments.Row}
    (h : ShowsRow rules tables place row) :
    ∃ shown, rowIn? tables place = some shown ∧ shown.Shows rules row ∧
      ShowsSubtable rules tables place shown.subtable row.subtable := by
  rcases row with ⟨label, columns, metadata, subtable, level⟩
  obtain ⟨below, hrow, hbelow⟩ := h
  refine ⟨_, hrow, ?_, hbelow⟩
  have hsome : below.isSome = subtable.isSome := by
    cases subtable with
    | none =>
      obtain rfl : below = none := hbelow
      rfl
    | some subtable =>
      obtain ⟨id, _, rfl, _⟩ := hbelow
      rfl
  exact Row.shows_ofLabel rules ⟨label, columns, metadata, subtable, level⟩ hsome

theorem ShowsRows.getElem? {id i j : Nat} {rows : List ReportSegments.Row}
    (h : ShowsRows rules tables id i rows) {row : ReportSegments.Row} (hrow : rows[j]? = some row) :
    ShowsRow rules tables ⟨id, i + j⟩ row := by
  induction rows generalizing i j with
  | nil => contradiction
  | cons first rows ih =>
    cases j with
    | zero =>
      obtain rfl := Option.some.inj hrow
      exact h.1
    | succ j =>
      rw [Nat.add_comm j, ← Nat.add_assoc]
      exact ih h.2 hrow

theorem ShowsTable.getElem? {id j : Nat} {table : ReportSegments.Table}
    (h : ShowsTable rules tables id table) {row : ReportSegments.Row}
    (hrow : table.rows[j]? = some row) : ShowsRow rules tables ⟨id, j⟩ row := by
  rcases table with ⟨rows, summary⟩
  have := ShowsRows.getElem? h.2 hrow
  rw [Nat.zero_add] at this
  exact this

theorem ShowsTable.rowIn?_eq_none {id j : Nat} {table : ReportSegments.Table}
    (h : ShowsTable rules tables id table) (hrow : table.rows[j]? = none) :
    rowIn? tables ⟨id, j⟩ = none := by
  rcases table with ⟨rows, summary⟩
  obtain ⟨⟨shown, hshown, hlength⟩, -⟩ := h
  rw [List.getElem?_eq_none_iff] at hrow
  unfold rowIn?
  rw [hshown, Option.bind_some, List.getElem?_eq_none_iff, hlength]
  exact hrow

namespace Tree

def below? (tree : Tree) (place : RowRef) (j : Nat) : Option RowRef :=
  ((tree.row? place).bind Row.subtable).bind fun id =>
    (tree.row? ⟨id, j⟩).map fun _ => ⟨id, j⟩

theorem resolve?_singleton (tree : Tree) (i : Nat) :
    tree.resolve? [i] = (tree.row? ⟨0, i⟩).map fun _ => ⟨0, i⟩ := rfl

theorem go_concat (tree : Tree) (id i : Nat) (path : List Nat) (j : Nat) :
    resolve?.go tree id i (path ++ [j]) =
      (resolve?.go tree id i path).bind fun place => tree.below? place j := by
  induction path generalizing id i with
  | nil =>
    rw [List.nil_append, resolve?.go, resolve?.go]
    cases hrow : tree.row? ⟨id, i⟩ with
    | none => rfl
    | some row =>
      simp only [Option.map_some, Option.bind_some, below?, hrow]
      rfl
  | cons k path ih =>
    rw [List.cons_append, resolve?.go, resolve?.go]
    cases (tree.row? ⟨id, i⟩).bind Row.subtable with
    | none => rfl
    | some id => exact ih id k

theorem resolve?_concat (tree : Tree) {path : List Nat} (hne : path ≠ []) (j : Nat) :
    tree.resolve? (path ++ [j]) =
      (tree.resolve? path).bind fun place => tree.below? place j := by
  cases path with
  | nil => contradiction
  | cons i path => exact go_concat tree 0 i path j

variable {tree : Tree} {table : ReportSegments.Table}

theorem parent?_zero (tree : Tree) : tree.parent? 0 = none := by
  cases hparent : tree.parent? 0 with
  | none => rfl
  | some parent =>
    obtain ⟨shown, hshown, hparent⟩ := Option.bind_eq_some_iff.1 hparent
    exact absurd (tree.opened 0 shown parent hshown hparent).1 (Nat.not_lt_zero _)

theorem below?_of_subtable {place : RowRef} {row : ReportSegments.Row}
    (h : ShowsRow rules tree.tables place row) {subtable : ReportSegments.Table}
    (hsub : row.subtable = some subtable) :
    ∃ id shown, tree.tables[id]? = some shown ∧ shown.parent = some place ∧
      (subtable.rows = [] → shown.rows = [Row.placeholder rules]) ∧
      (subtable.rows ≠ [] → ShowsTable rules tree.tables id subtable) ∧
      ∀ j, tree.below? place j = (tree.row? ⟨id, j⟩).map fun _ => ⟨id, j⟩ := by
  obtain ⟨row', hrow, -, hbelow⟩ := h.exists_shown
  rw [hsub] at hbelow
  obtain ⟨id, shown, hid, -, hshown, hparent, hempty, hrows⟩ := hbelow
  refine ⟨id, shown, hshown, hparent, hempty, hrows, ?_⟩
  intro j
  rw [below?, row?, hrow, Option.bind_some, hid, Option.bind_some]

theorem below?_eq_none_of_subtable {place : RowRef} {row : ReportSegments.Row}
    (h : ShowsRow rules tree.tables place row) (hsub : row.subtable = none) (j : Nat) :
    tree.below? place j = none := by
  obtain ⟨row', hrow, -, hbelow⟩ := h.exists_shown
  rw [hsub] at hbelow
  have hnone : row'.subtable = none := hbelow
  rw [below?, row?, hrow, Option.bind_some, hnone]
  rfl

theorem resolve?_of_rowAt? (hshows : ShowsTable rules tree.tables 0 table) {path : List Nat}
    {row : ReportSegments.Row} (hrow : table.rowAt? path = some row) :
    ∃ place, tree.resolve? path = some place ∧ ShowsRow rules tree.tables place row ∧
      tree.parent? place.table = tree.resolve? path.dropLast := by
  -- The induction is on the path from its end, since the last index is that of the row itself.
  induction path using List.reverseRecOn generalizing row with
  | nil => contradiction
  | append_singleton path j ih =>
    rw [List.dropLast_concat]
    by_cases hpath : path = []
    . subst hpath
      have hshown := hshows.getElem? hrow
      obtain ⟨shown, hplace, -, -⟩ := hshown.exists_shown
      refine ⟨⟨0, j⟩, ?_, hshown, parent?_zero tree⟩
      rw [List.nil_append, resolve?_singleton, row?, hplace]
      rfl
    . rw [Rows.rowAt?_concat table hpath] at hrow
      obtain ⟨subtable, hsub, hrow⟩ := Option.bind_eq_some_iff.1 hrow
      obtain ⟨upper, hupper, hsub⟩ := Option.bind_eq_some_iff.1 hsub
      obtain ⟨place, hplace, hshown, -⟩ := ih hupper
      obtain ⟨id, opened, hopened, hparent, -, hrows, hbelow⟩ := below?_of_subtable hshown hsub
      have hne : subtable.rows ≠ [] := by
        intro hnil
        rw [hnil] at hrow
        contradiction
      have hshown' := (hrows hne).getElem? hrow
      obtain ⟨shown, hget, -, -⟩ := hshown'.exists_shown
      refine ⟨⟨id, j⟩, ?_, hshown', ?_⟩
      . rw [resolve?_concat tree hpath, hplace, Option.bind_some, hbelow, row?, hget]
        rfl
      . rw [hplace, parent?, hopened]
        exact hparent

/--
Whether a path leads to a row whose sub-table has no regular rows.
-/
def IsEmptyBelow (table : ReportSegments.Table) (path : List Nat) : Prop :=
  ∃ row subtable, table.rowAt? path = some row ∧ row.subtable = some subtable ∧ subtable.rows = []

theorem IsEmptyBelow.ne_nil {path : List Nat} (h : IsEmptyBelow table path) : path ≠ [] := by
  intro hnil
  obtain ⟨row, _, hrow, _⟩ := h
  rw [hnil] at hrow
  contradiction

theorem resolve?_of_isEmptyBelow (hshows : ShowsTable rules tree.tables 0 table) {path : List Nat}
    (h : IsEmptyBelow table path) :
    ∃ place, tree.resolve? (path ++ [0]) = some place ∧
      tree.row? place = some (Row.placeholder rules) := by
  have hpath := h.ne_nil
  obtain ⟨row, subtable, hrow, hsub, hempty⟩ := h
  obtain ⟨place, hplace, hshown, -⟩ := resolve?_of_rowAt? hshows hrow
  obtain ⟨id, opened, hopened, -, hplaceholder, -, hbelow⟩ := below?_of_subtable hshown hsub
  have hfirst : tree.row? ⟨id, 0⟩ = some (Row.placeholder rules) := by
    unfold row? rowIn?
    rw [hopened, Option.bind_some, hplaceholder hempty]
    rfl
  refine ⟨⟨id, 0⟩, ?_, hfirst⟩
  rw [resolve?_concat tree hpath, hplace, Option.bind_some, hbelow, hfirst]
  rfl

theorem below?_eq_none {path : List Nat} {row : ReportSegments.Row}
    (hrow : table.rowAt? path = some row) {place : RowRef}
    (hshown : ShowsRow rules tree.tables place row) {j : Nat}
    (hnone : ∀ subtable, row.subtable = some subtable → subtable.rows[j]? = none)
    (hno : j = 0 → ¬IsEmptyBelow table path) : tree.below? place j = none := by
  cases hsub : row.subtable with
  | none => exact below?_eq_none_of_subtable hshown hsub j
  | some subtable =>
    obtain ⟨id, opened, hopened, -, hplaceholder, hrows, hbelow⟩ := below?_of_subtable hshown hsub
    rw [hbelow, Option.map_eq_none_iff]
    by_cases hempty : subtable.rows = []
    . have hj : j ≠ 0 := fun hj => hno hj ⟨row, subtable, hrow, hsub, hempty⟩
      unfold row? rowIn?
      rw [hopened, Option.bind_some, hplaceholder hempty, List.getElem?_eq_none_iff]
      exact Nat.pos_of_ne_zero hj
    . exact (hrows hempty).rowIn?_eq_none (hnone subtable hsub)

theorem resolve?_eq_none (hshows : ShowsTable rules tree.tables 0 table) {path : List Nat}
    (hrow : table.rowAt? path = none)
    (hno : ∀ above, path = above ++ [0] → ¬IsEmptyBelow table above) : tree.resolve? path = none := by
  induction path using List.reverseRecOn with
  | nil => rfl
  | append_singleton path j ih =>
    by_cases hpath : path = []
    . subst hpath
      rw [List.nil_append, resolve?_singleton, row?, hshows.rowIn?_eq_none hrow]
      rfl
    . rw [Rows.rowAt?_concat table hpath] at hrow
      rw [resolve?_concat tree hpath]
      cases hupper : table.rowAt? path with
      | none =>
        by_cases hplaceholder : ∃ above, path = above ++ [0] ∧ IsEmptyBelow table above
        -- A placeholder is displayed without a row of the table, but no table is open below it.
        . obtain ⟨above, rfl, hempty⟩ := hplaceholder
          obtain ⟨place, hplace, hget⟩ := resolve?_of_isEmptyBelow hshows hempty
          rw [hplace, Option.bind_some, below?, hget]
          rfl
        . rw [ih hupper (fun above hpath hempty => hplaceholder ⟨above, hpath, hempty⟩)]
          rfl
      | some upper =>
        obtain ⟨place, hplace, hshown, -⟩ := resolve?_of_rowAt? hshows hupper
        rw [hplace, Option.bind_some]
        apply below?_eq_none hupper hshown
        . intro subtable hsub
          rw [hupper, Option.bind_some, hsub] at hrow
          exact hrow
        . intro hj
          apply hno path
          rw [hj]

theorem showsTable_ofTable (rules : LayoutRules) (table : ReportSegments.Table) :
    Grows empty.tables (ofTable rules table).tables 0 table.rows.length table.subtableCount ∧
      ShowsTable rules (ofTable rules table).tables 0 table :=
  laysOut rules table empty 0 {} rfl rfl

/--
The layout of a table as a simulation: where the table has a row, its displayed row is found by the
same path, with the row above it as the one that opened its table; behind a row with an empty
sub-table there is a placeholder; no other path leads to a row. There is one displayed table for the
table itself and one for each sub-table.
-/
theorem resolve?_ofTable (rules : LayoutRules) (table : ReportSegments.Table) :
    (∀ path row, table.rowAt? path = some row →
      ∃ place shown, (ofTable rules table).resolve? path = some place ∧
        (ofTable rules table).row? place = some shown ∧ shown.Shows rules row ∧
        (ofTable rules table).parent? place.table =
          (ofTable rules table).resolve? path.dropLast) ∧
    (∀ path, IsEmptyBelow table path →
      ∃ place shown, (ofTable rules table).resolve? (path ++ [0]) = some place ∧
        (ofTable rules table).row? place = some shown ∧ shown.noData = true ∧
        shown.text = rules.noDataLabel) ∧
    (∀ path, table.rowAt? path = none →
      (∀ above, path = above ++ [0] → ¬IsEmptyBelow table above) →
      (ofTable rules table).resolve? path = none) ∧
    (ofTable rules table).tables.length = 1 + table.subtableCount := by
  obtain ⟨hgrows, hshows⟩ := showsTable_ofTable rules table
  refine ⟨?_, ?_, ?_, hgrows.length⟩
  . intro path row hrow
    obtain ⟨place, hplace, hshown, hparent⟩ := resolve?_of_rowAt? hshows hrow
    obtain ⟨shown, hget, hshows, -⟩ := hshown.exists_shown
    exact ⟨place, shown, hplace, hget, hshows, hparent⟩
  . intro path hempty
    obtain ⟨place, hplace, hget⟩ := resolve?_of_isEmptyBelow hshows hempty
    exact ⟨place, _, hplace, hget, rfl, rfl⟩
  . intro path hrow hno
    exact resolve?_eq_none hshows hrow hno

theorem resolve?_ofTable_nested :
    let rules : LayoutRules := { maxLabelLength := some 3 }
    let pear : ReportSegments.Row := { label := "Pear" }
    let fruits : ReportSegments.Row := { label := "Fruits", subtable := some { rows := [{}, pear] } }
    let others : ReportSegments.Row := { subtable := some { summary := some pear } }
    let table : ReportSegments.Table := { rows := [fruits, others] }
    let tree := ofTable rules table
    (table.rowAt? [0, 1] = some pear ∧
      ∃ place shown, tree.resolve? [0, 1] = some place ∧ tree.row? place = some shown ∧
        shown.Shows rules pear ∧ tree.parent? place.table = tree.resolve? [0]) ∧
    (IsEmptyBelow table [1] ∧
      ∃ place shown, tree.resolve? [1, 0] = some place ∧ tree.row? place = some shown ∧
        shown.noData = true ∧ shown.text = rules.noDataLabel) ∧
    (table.rowAt? [2] = none ∧ (∀ above, [2] = above ++ [0] → ¬IsEmptyBelow table above) ∧
      tree.resolve? [2] = none) := by
  intro rules pear fruits others table tree
  obtain ⟨hrows, hempty, hnone, -⟩ := resolve?_ofTable rules table
  have hone : IsEmptyBelow table [1] := ⟨others, _, rfl, rfl, rfl⟩
  have htwo : ∀ above, [2] = above ++ [0] → ¬IsEmptyBelow table above := by
    intro above hpath
    have := congrArg List.getLast? hpath
    rw [List.getLast?_concat] at this
    contradiction
  exact ⟨⟨rfl, hrows [0, 1] pear rfl⟩, ⟨hone, hempty [1] hone⟩, rfl, htwo, hnone [2] rfl htwo⟩

end Tree
end Display
end ReportSegments
