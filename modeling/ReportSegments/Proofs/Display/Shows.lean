import ReportSegments.Display.Layout
import ReportSegments.Proofs.Display.Growth
import ReportSegments.Proofs.Report.Path

/-!
This module contains how displayed tables show a table of a report, and that the layout makes tables
that do: what it adds is shown right away, and nothing that it adds later disturbs it.
-/

namespace ReportSegments
namespace Display

mutual

/--
Whether the displayed table `id` shows a table: one row for each of its regular rows.
-/
def ShowsTable (rules : LayoutRules) (tables : List Table) (id : Nat) : ReportSegments.Table → Prop
  | ⟨rows, _⟩ =>
    (∃ shown, tables[id]? = some shown ∧ shown.rows.length = rows.length) ∧
      ShowsRows rules tables id 0 rows

def ShowsRows (rules : LayoutRules) (tables : List Table) (id i : Nat) :
    List ReportSegments.Row → Prop
  | [] => True
  | row :: rows => ShowsRow rules tables ⟨id, i⟩ row ∧ ShowsRows rules tables id (i + 1) rows

def ShowsRow (rules : LayoutRules) (tables : List Table) (place : RowRef) :
    ReportSegments.Row → Prop
  | ⟨label, _, _, subtable, level⟩ =>
    ∃ below, rowIn? tables place = some { Row.ofLabel rules label level with subtable := below } ∧
      ShowsSubtable rules tables place below subtable

/--
Whether the table that was opened below the row at a place shows a sub-table. One without regular
rows is shown by a placeholder.
-/
def ShowsSubtable (rules : LayoutRules) (tables : List Table) (place : RowRef)
    (below : Option Nat) : Option ReportSegments.Table → Prop
  | none => below = none
  | some table =>
    ∃ id shown, below = some id ∧ place.table < id ∧ tables[id]? = some shown ∧
      shown.parent = some place ∧ (table.rows = [] → shown.rows = [Row.placeholder rules]) ∧
      (table.rows ≠ [] → ShowsTable rules tables id table)

end

/--
Whether the tables from `id` on are still there, unchanged.
-/
def KeptFrom (tables tables' : List Table) (id : Nat) : Prop :=
  ∀ k shown, id ≤ k → tables[k]? = some shown → tables'[k]? = some shown

theorem KeptFrom.mono {tables tables' : List Table} {id id' : Nat} (h : KeptFrom tables tables' id)
    (hle : id ≤ id') : KeptFrom tables tables' id' := by
  intro k shown hk
  apply h
  omega

theorem KeptFrom.rowIn? {tables tables' : List Table} {place : RowRef} {shown : Row}
    (h : KeptFrom tables tables' place.table) (hrow : Display.rowIn? tables place = some shown) :
    Display.rowIn? tables' place = some shown := by
  obtain ⟨table, htable, hget⟩ := Option.bind_eq_some_iff.1 hrow
  unfold Display.rowIn?
  rw [h place.table table (Nat.le_refl _) htable]
  exact hget

variable {rules : LayoutRules} {tables tables' : List Table}

theorem ShowsRow.mono {row : ReportSegments.Row} {place : RowRef}
    (ih : ∀ subtable, row.subtable = some subtable → ∀ id, KeptFrom tables tables' id →
      ShowsTable rules tables id subtable → ShowsTable rules tables' id subtable)
    (hplace : ∀ shown, rowIn? tables place = some shown → rowIn? tables' place = some shown)
    (hkept : KeptFrom tables tables' (place.table + 1))
    (h : ShowsRow rules tables place row) : ShowsRow rules tables' place row := by
  rcases row with ⟨label, columns, metadata, subtable, level⟩
  obtain ⟨below, hrow, hbelow⟩ := h
  refine ⟨below, hplace _ hrow, ?_⟩
  cases subtable with
  | none => exact hbelow
  | some subtable =>
    -- A sub-table is shown by a later table than the row.
    obtain ⟨id, shown, hid, hlt, hshown, hparent, hempty, hrows⟩ := hbelow
    refine ⟨id, shown, hid, hlt, hkept id shown hlt hshown, hparent, hempty, ?_⟩
    intro hne
    exact ih subtable rfl id (hkept.mono hlt) (hrows hne)

theorem ShowsRows.mono {rows : List ReportSegments.Row} {id i : Nat}
    (ih : ∀ row ∈ rows, ∀ subtable, row.subtable = some subtable → ∀ id, KeptFrom tables tables' id →
      ShowsTable rules tables id subtable → ShowsTable rules tables' id subtable)
    (hkept : KeptFrom tables tables' id) (h : ShowsRows rules tables id i rows) :
    ShowsRows rules tables' id i rows := by
  induction rows generalizing i with
  | nil => trivial
  | cons row rows ihrows =>
    rw [List.forall_mem_cons] at ih
    refine ⟨ShowsRow.mono ih.1 ?_ (hkept.mono (Nat.le_succ id)) h.1, ihrows ih.2 h.2⟩
    intro shown
    exact hkept.rowIn?

theorem ShowsTable.mono (table : ReportSegments.Table) (id : Nat)
    (hkept : KeptFrom tables tables' id) (h : ShowsTable rules tables id table) :
    ShowsTable rules tables' id table := by
  induction table using Rows.nested_induction generalizing id with
  | step rows summary ih _ =>
    obtain ⟨⟨shown, hshown, hlength⟩, hrows⟩ := h
    exact ⟨⟨shown, hkept id shown (Nat.le_refl id) hshown, hlength⟩, hrows.mono ih hkept⟩

namespace Tree

/--
What the layout of a table does, when it starts with an empty displayed table.
-/
def LaysOut (rules : LayoutRules) (table : ReportSegments.Table) : Prop :=
  ∀ (tree : Tree) (id : Nat) (shown : Table), tree.tables[id]? = some shown → shown.rows = [] →
    Grows tree.tables (addTable rules tree id table).tables id table.rows.length
        table.subtableCount ∧
      ShowsTable rules (addTable rules tree id table).tables id table

def fill (rules : LayoutRules) (tree : Tree) (id : Nat) (table : ReportSegments.Table) : Tree :=
  match table.rows with
  | [] => tree.push id (Row.placeholder rules)
  | _ => addTable rules tree id table

theorem fill_shows {table : ReportSegments.Table} (ih : LaysOut rules table) {tree : Tree}
    {id : Nat} {shown : Table} (hshown : tree.tables[id]? = some shown) (hempty : shown.rows = []) :
    ∃ rows shown',
      Grows tree.tables (fill rules tree id table).tables id rows table.subtableCount ∧
      (fill rules tree id table).tables[id]? = some shown' ∧ shown'.parent = shown.parent ∧
      (table.rows = [] → shown'.rows = [Row.placeholder rules]) ∧
      (table.rows ≠ [] → ShowsTable rules (fill rules tree id table).tables id table) := by
  unfold fill
  split
  . next hrows =>
    have hgrows := tree.grows_push id (Row.placeholder rules)
    refine ⟨1, { shown with rows := [Row.placeholder rules] }, ?_, ?_, rfl, ?_, ?_⟩
    . rw [Rows.subtableCount_eq, hrows]
      exact hgrows
    . unfold push
      rw [getElem?_modifyRows, hshown]
      simp [hempty]
    . intro _
      rfl
    . intro hne
      exact absurd hrows hne
  . next hne =>
    obtain ⟨hgrows, hshows⟩ := ih tree id shown hshown hempty
    obtain ⟨shown', hshown', hparent, -, -⟩ := hgrows.table hshown
    refine ⟨_, shown', hgrows, hshown', hparent, ?_, ?_⟩
    . intro hnil
      exact absurd hnil hne
    . intro _
      exact hshows

theorem addRow_shows {row : ReportSegments.Row}
    (ih : ∀ subtable, row.subtable = some subtable → LaysOut rules subtable) {tree : Tree}
    {id : Nat} {shown : Table} (hshown : tree.tables[id]? = some shown) :
    Grows tree.tables (addRow rules tree id row).tables id 1
        (row.subtable.elim 0 fun subtable => 1 + subtable.subtableCount) ∧
      ShowsRow rules (addRow rules tree id row).tables ⟨id, shown.rows.length⟩ row := by
  rcases row with ⟨label, columns, metadata, subtable, level⟩
  unfold addRow
  rw [push?_eq hshown]
  generalize hrow : Row.ofLabel rules label level = row
  cases subtable with
  | none =>
    refine ⟨tree.grows_push id row, none, ?_, rfl⟩
    have hnone : { row with subtable := none } = row := by
      rw [← hrow]
      unfold Row.ofLabel
      split
      . split <;> rfl
      . rfl
    rw [hrow, hnone]
    exact row?_push hshown row
  | some table =>
    have hsome : ((tree.push id row).row? ⟨id, shown.rows.length⟩).isSome := by
      rw [row?_push hshown]
      rfl
    have hadd : addSubtable rules (tree.push id row) ⟨id, shown.rows.length⟩ (some table) =
        fill rules ((tree.push id row).openBelow ⟨id, shown.rows.length⟩ hsome)
          tree.tables.length table := by
      have hlength := (tree.grows_push id row).length
      unfold addSubtable openBelow?
      rw [dif_pos hsome, hlength]
      rfl
    dsimp only
    rw [hadd]
    obtain ⟨rows, shown', hfill, hshown', hparent, hempty, hrows⟩ :=
      fill_shows (ih table rfl) (getElem?_openBelow_push hshown row hsome) rfl
    have hopened := grows_openBelow_push hshown row hsome
    obtain ⟨hid, -⟩ := List.getElem?_eq_some_iff.1 hshown
    refine ⟨hopened.trans_new hid (Nat.le_refl _) hfill, some tree.tables.length, ?_,
      tree.tables.length, shown', rfl, hid, hshown', hparent, hempty, hrows⟩
    -- What is added below the row leaves the row itself as it is.
    obtain ⟨found, hfound, hget⟩ := Option.bind_eq_some_iff.1 (row?_openBelow_push hshown row hsome)
    unfold rowIn?
    rw [hfill.getElem? (Nat.ne_of_lt hid) hfound, Option.bind_some, hget, hrow]

theorem addRows_shows {rows : List ReportSegments.Row}
    (ih : ∀ row ∈ rows, ∀ subtable, row.subtable = some subtable → LaysOut rules subtable)
    {tree : Tree} {id : Nat} {shown : Table} (hshown : tree.tables[id]? = some shown) :
    Grows tree.tables (addRows rules tree id rows).tables id rows.length
        (Rows.subtableCountRows rows) ∧
      ShowsRows rules (addRows rules tree id rows).tables id shown.rows.length rows := by
  induction rows generalizing tree shown with
  | nil => exact ⟨Grows.refl tree.tables id, trivial⟩
  | cons row rows ihrows =>
    rw [List.forall_mem_cons] at ih
    rw [addRows]
    obtain ⟨hfirst, hshows⟩ := addRow_shows ih.1 hshown
    obtain ⟨shown', hshown', -, -, hlength⟩ := hfirst.table hshown
    obtain ⟨hrest, hshowsRest⟩ := ihrows ih.2 hshown'
    rw [hlength] at hshowsRest
    refine ⟨?_, ?_, hshowsRest⟩
    . rw [List.length_cons, Nat.add_comm rows.length]
      exact hfirst.trans hrest
    -- The other rows come behind the first one, and their sub-tables behind its sub-table.
    . apply hshows.mono
      . intro subtable _
        exact ShowsTable.mono subtable
      . intro shown hrow
        exact hrest.rowIn? hrow
      . intro k shown hlt hget
        exact hrest.getElem? (Nat.ne_of_gt hlt) hget

/--
The layout of a table adds its rows and opens its sub-tables so that the table is shown.
-/
theorem laysOut (rules : LayoutRules) (table : ReportSegments.Table) : LaysOut rules table := by
  induction table using Rows.nested_induction with
  | step rows summary ih _ =>
    intro tree id shown hshown hempty
    obtain ⟨hgrows, hshows⟩ := addRows_shows ih hshown
    obtain ⟨shown', hshown', -, -, hlength⟩ := hgrows.table hshown
    rw [hempty] at hshows hlength
    rw [Rows.subtableCount_eq]
    refine ⟨hgrows, ⟨shown', hshown', ?_⟩, hshows⟩
    rw [hlength]
    exact Nat.zero_add rows.length

end Tree
end Display
end ReportSegments
