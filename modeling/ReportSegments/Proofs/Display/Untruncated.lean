import ReportSegments.Display.Recompose
import ReportSegments.Proofs.Display.Shows
import ReportSegments.Proofs.Pass.Rowwise
import ReportSegments.Proofs.Report.Outline

/-!
This module contains displayed tables in which no label is truncated. Rows are found in them where
they were and have the same full labels. A layout without truncation comes out of every layout of
the same outline, so what the rules say about long labels and what rows carry besides their labels
does not change a full label.
-/

namespace ReportSegments

/--
The rules with every label shown as it is.
-/
def LayoutRules.untruncated (rules : LayoutRules) : LayoutRules where
  separator := rules.separator
  truncationMarker := ""
  noDataLabel := rules.noDataLabel

namespace Display

theorem map_modify {α β : Type} {g : α → β} {f : α → α} {f' : β → β} (h : ∀ a, g (f a) = f' (g a))
    (l : List α) (i : Nat) : (l.modify i f).map g = (l.map g).modify i f' := by
  apply List.ext_getElem?
  intro j
  rw [List.getElem?_map, List.getElem?_modify, List.getElem?_modify, List.getElem?_map]
  cases l[j]? with
  | none => rfl
  | some a =>
    by_cases hij : i = j
    . simp [hij, h]
    . simp [hij]

def Row.untruncated (row : Row) : Row :=
  { row with label := row.text, fullLabel := none }

theorem Row.text_untruncated (row : Row) : row.untruncated.text = row.text := rfl

theorem Row.untruncated_ofLabel (rules : LayoutRules) (label : String) (level : Option UInt32) :
    (Row.ofLabel rules label level).untruncated = Row.ofLabel rules.untruncated label level := by
  unfold Row.ofLabel
  split
  . split <;> rfl
  . rfl

def Table.untruncated (table : Table) : Table :=
  { table with rows := table.rows.map Row.untruncated }

theorem rowIn?_map_untruncated (tables : List Table) (place : RowRef) :
    rowIn? (tables.map Table.untruncated) place = (rowIn? tables place).map Row.untruncated := by
  unfold rowIn?
  rw [List.getElem?_map]
  cases tables[place.table]? with
  | none => rfl
  | some table => exact List.getElem?_map

theorem lastAtLevel?_map_untruncated (rows : List Row) (level : UInt32) (n : Nat) :
    lastAtLevel? (rows.map Row.untruncated) level n = lastAtLevel? rows level n := by
  induction n with
  | zero => rfl
  | succ n ih =>
    rw [lastAtLevel?, lastAtLevel?, List.getElem?_map, ih]
    cases rows[n]? <;> rfl

namespace Tree

def untruncated (tree : Tree) : Tree where
  tables := tree.tables.map Table.untruncated
  nonempty := by simp [tree.nonempty]
  opened := by
    intro id table parent htable hparent
    rw [List.getElem?_map] at htable
    obtain ⟨truncated, htruncated, rfl⟩ := Option.map_eq_some_iff.1 htable
    rw [rowIn?_map_untruncated, Option.isSome_map]
    exact tree.opened id truncated parent htruncated hparent

theorem eq_of_tables_eq {tree tree' : Tree} (h : tree.tables = tree'.tables) : tree = tree' := by
  cases tree
  cases tree'
  cases h
  rfl

section Labels

variable (tree : Tree)

theorem tables_untruncated : tree.untruncated.tables = tree.tables.map Table.untruncated := rfl

theorem length_untruncated : tree.untruncated.tables.length = tree.tables.length :=
  List.length_map Table.untruncated

theorem getElem?_untruncated (id : Nat) :
    tree.untruncated.tables[id]? = tree.tables[id]?.map Table.untruncated :=
  List.getElem?_map

theorem row?_untruncated (place : RowRef) :
    tree.untruncated.row? place = (tree.row? place).map Row.untruncated :=
  rowIn?_map_untruncated tree.tables place

theorem parent?_untruncated (id : Nat) : tree.untruncated.parent? id = tree.parent? id := by
  unfold parent?
  rw [getElem?_untruncated]
  cases tree.tables[id]? <;> rfl

theorem end?_untruncated (id : Nat) : tree.untruncated.end? id = tree.end? id := by
  unfold end?
  rw [getElem?_untruncated]
  cases tree.tables[id]? with
  | none => rfl
  | some table => simp [Table.untruncated]

theorem levelParent?_untruncated (place : RowRef) (level : UInt32) :
    tree.untruncated.levelParent? place level = tree.levelParent? place level := by
  unfold levelParent?
  rw [getElem?_untruncated]
  cases tree.tables[place.table]? with
  | none => rfl
  | some table =>
    rw [Option.map_some, Option.bind_some, Option.bind_some, Table.untruncated,
      lastAtLevel?_map_untruncated]

theorem above?_untruncated (place : RowRef) (row : Row) :
    tree.untruncated.above? place row.untruncated = tree.above? place row := by
  unfold above?
  simp only [levelParent?_untruncated, parent?_untruncated]
  rfl

theorem go_untruncated (id i : Nat) (path : List Nat) :
    resolve?.go tree.untruncated id i path = resolve?.go tree id i path := by
  induction path generalizing id i with
  | nil =>
    rw [resolve?.go, resolve?.go, row?_untruncated, Option.map_map]
    rfl
  | cons j path ih =>
    rw [resolve?.go, resolve?.go, row?_untruncated]
    cases tree.row? ⟨id, i⟩ with
    | none => rfl
    | some row =>
      rw [Option.map_some, Option.bind_some, Option.bind_some, Row.untruncated]
      simp only [ih]

theorem resolve?_untruncated (path : List Nat) :
    tree.untruncated.resolve? path = tree.resolve? path := by
  cases path with
  | nil => rfl
  | cons i path => exact tree.go_untruncated 0 i path

theorem recompose_eq (separator : String) (place : RowRef) (suffix : String) :
    tree.recompose separator place suffix =
      match tree.row? place with
      | none => .error ⟨place⟩
      | some row =>
        match tree.above? place row with
        | some above => tree.recompose separator above (separator ++ row.text ++ suffix)
        | none => .ok (row.text ++ suffix) := by
  rw [recompose]
  cases tree.row? place with
  | none => rfl
  | some row =>
    dsimp only
    split <;> simp only [*]

theorem recompose_untruncated (separator : String) (place : RowRef) (suffix : String) :
    tree.untruncated.recompose separator place suffix = tree.recompose separator place suffix := by
  fun_induction tree.recompose separator place suffix with
  | case1 place suffix hnone =>
    rw [recompose_eq, row?_untruncated, hnone]
    rfl
  | case2 place suffix row hrow above habove ih =>
    rw [recompose_eq, row?_untruncated, hrow, Option.map_some]
    dsimp only
    rw [above?_untruncated, habove, Row.text_untruncated]
    exact ih
  | case3 place suffix row hrow hnone =>
    rw [recompose_eq, row?_untruncated, hrow, Option.map_some]
    dsimp only
    rw [above?_untruncated, hnone, Row.text_untruncated]

theorem segmentFor_untruncated (separator : String) (place : RowRef) (segment operator : String) :
    tree.untruncated.segmentFor separator place segment operator =
      tree.segmentFor separator place segment operator := by
  unfold segmentFor
  rw [recompose_untruncated]

end Labels

section Layout

theorem untruncated_push (tree : Tree) (id : Nat) (row : Row) :
    (tree.push id row).untruncated = tree.untruncated.push id row.untruncated := by
  apply eq_of_tables_eq
  apply map_modify
  intro table
  unfold Table.untruncated
  rw [List.map_append, List.map_singleton]

theorem untruncated_openBelow (tree : Tree) (place : RowRef) (h : (tree.row? place).isSome)
    (h' : (tree.untruncated.row? place).isSome) :
    (tree.openBelow place h).untruncated = tree.untruncated.openBelow place h' := by
  apply eq_of_tables_eq
  rw [tables_untruncated, tables_openBelow, tables_openBelow, length_untruncated,
    tables_untruncated, List.map_append]
  congr 1
  apply map_modify
  intro table
  unfold Table.untruncated
  dsimp only
  rw [map_modify]
  intro row
  rfl

theorem push?_untruncated (tree : Tree) (id : Nat) (row : Row) :
    tree.untruncated.push? id row.untruncated =
      (tree.push? id row).map fun (tree, place) => (tree.untruncated, place) := by
  unfold push?
  rw [end?_untruncated, Option.map_map, ← untruncated_push]
  rfl

theorem openBelow?_untruncated (tree : Tree) (place : RowRef) :
    tree.untruncated.openBelow? place =
      (tree.openBelow? place).map fun (tree, id) => (tree.untruncated, id) := by
  have hrow : (tree.untruncated.row? place).isSome = (tree.row? place).isSome := by
    rw [row?_untruncated, Option.isSome_map]
  unfold openBelow?
  by_cases h : (tree.row? place).isSome
  . have h' : (tree.untruncated.row? place).isSome := by
      rw [hrow, h]
    rw [dif_pos h, dif_pos h', Option.map_some, length_untruncated]
    dsimp only
    rw [untruncated_openBelow tree place h h']
  . rw [dif_neg h, dif_neg (by rw [hrow]; exact h)]
    rfl

variable {rules : LayoutRules}

/--
Whether a table is laid out with full labels as its outline is without truncation.
-/
def Untruncates (rules : LayoutRules) (table : ReportSegments.Table) : Prop :=
  ∀ (tree : Tree) (id : Nat), (addTable rules tree id table).untruncated =
    addTable rules.untruncated tree.untruncated id table.outline

theorem untruncated_fill {table : ReportSegments.Table} (ih : Untruncates rules table)
    (tree : Tree) (id : Nat) :
    (fill rules tree id table).untruncated =
      fill rules.untruncated tree.untruncated id table.outline := by
  unfold fill
  rw [Rows.rows_outline]
  cases hrows : table.rows with
  | nil =>
    rw [Rows.outlineRows]
    exact tree.untruncated_push id (Row.placeholder rules)
  | cons row rows =>
    rw [Rows.outlineRows]
    exact ih tree id

theorem untruncated_addSubtable {subtable : Option ReportSegments.Table}
    (ih : ∀ table, subtable = some table → Untruncates rules table) (tree : Tree)
    (place : RowRef) :
    (addSubtable rules tree place subtable).untruncated =
      addSubtable rules.untruncated tree.untruncated place (Rows.outlineSubtable subtable) := by
  cases subtable with
  | none => rfl
  | some table =>
    unfold Rows.outlineSubtable addSubtable
    rw [openBelow?_untruncated]
    cases tree.openBelow? place with
    | none => rfl
    | some opened => exact untruncated_fill (ih table rfl) opened.1 opened.2

theorem untruncated_addRow {row : ReportSegments.Row}
    (ih : ∀ subtable, row.subtable = some subtable → Untruncates rules subtable) (tree : Tree)
    (id : Nat) :
    (addRow rules tree id row).untruncated =
      addRow rules.untruncated tree.untruncated id (Rows.outlineRow row) := by
  rcases row with ⟨label, columns, metadata, subtable, level⟩
  unfold Rows.outlineRow addRow
  rw [← Row.untruncated_ofLabel, push?_untruncated]
  cases tree.push? id (Row.ofLabel rules label level) with
  | none => rfl
  | some pushed => exact untruncated_addSubtable ih pushed.1 pushed.2

theorem untruncated_addRows {rows : List ReportSegments.Row}
    (ih : ∀ row ∈ rows, ∀ subtable, row.subtable = some subtable → Untruncates rules subtable)
    (tree : Tree) (id : Nat) :
    (addRows rules tree id rows).untruncated =
      addRows rules.untruncated tree.untruncated id (Rows.outlineRows rows) := by
  induction rows generalizing tree with
  | nil => rfl
  | cons row rows ihrows =>
    rw [List.forall_mem_cons] at ih
    rw [Rows.outlineRows, addRows, addRows, ihrows ih.2, untruncated_addRow ih.1]

theorem untruncated_addTable (rules : LayoutRules) (table : ReportSegments.Table) :
    Untruncates rules table := by
  induction table using Rows.nested_induction with
  | step rows summary ih _ =>
    intro tree id
    rw [Rows.outline, addTable, addTable, untruncated_addRows ih]

theorem untruncated_ofTable (rules : LayoutRules) (table : ReportSegments.Table) :
    (ofTable rules table).untruncated = ofTable rules.untruncated table.outline :=
  untruncated_addTable rules table empty 0

end Layout

/--
Whether paths lead to the same places in two trees, where the same full labels and expressions are
found, each with the separator of its tree.
-/
structure SameLabels (tree tree' : Tree) (separator separator' : String) : Prop where
  resolve? : ∀ path, tree.resolve? path = tree'.resolve? path
  recompose : ∀ place, tree.recompose separator place = tree'.recompose separator' place
  segmentFor : ∀ place segment operator,
    tree.segmentFor separator place segment operator =
      tree'.segmentFor separator' place segment operator

variable {rules rules' : LayoutRules} {table table' : ReportSegments.Table}

theorem sameLabels_of_untruncated_eq {tree tree' : Tree} (separator : String)
    (h : tree.untruncated = tree'.untruncated) : SameLabels tree tree' separator separator := by
  refine ⟨?_, ?_, ?_⟩
  . intro path
    rw [← resolve?_untruncated, h, resolve?_untruncated]
  . intro place
    rw [← recompose_untruncated, h, recompose_untruncated]
  . intro place segment operator
    rw [← segmentFor_untruncated, h, segmentFor_untruncated]

theorem sameLabels_of_outline_eq (hseparator : rules.separator = rules'.separator)
    (hnoData : rules.noDataLabel = rules'.noDataLabel) (htable : table.outline = table'.outline) :
    SameLabels (ofTable rules table) (ofTable rules' table') rules.separator rules'.separator := by
  have hrules : rules.untruncated = rules'.untruncated := by
    unfold LayoutRules.untruncated
    rw [hseparator, hnoData]
  rw [hseparator]
  apply sameLabels_of_untruncated_eq
  rw [untruncated_ofTable, untruncated_ofTable, hrules, htable]

/--
Where two tables have the same regular rows with the same labels, levels and sub-tables, and two
layouts the same separator and the same label for empty tables, there are the same full labels at
the same paths. Columns, metadata and summary rows do not matter for them, nor the truncation of
labels, nor the passes that were run before.
-/
theorem sameLabels_ofTable (hseparator : rules.separator = rules'.separator)
    (hnoData : rules.noDataLabel = rules'.noDataLabel) (htable : table.outline = table'.outline) :
    SameLabels (ofTable rules table) (ofTable rules' table') rules.separator rules'.separator ∧
    ∀ passes : Pipeline,
      SameLabels (ofTable rules table) (ofTable rules' (passes.run table').1) rules.separator
        rules'.separator := by
  refine ⟨sameLabels_of_outline_eq hseparator hnoData htable, ?_⟩
  intro passes
  apply sameLabels_of_outline_eq hseparator hnoData
  rw [Pipeline.fst_run, Rows.outline_mapMetadata, htable]

theorem sameLabels_ofTable_nothing_shown :
    let rules : LayoutRules := { separator := " > " }
    let rules' : LayoutRules :=
      { separator := " > ", maxLabelLength := some 0, truncationMarker := "~" }
    let visits := Fields.ofList [("nb_visits", .string "3")]
    let pear : ReportSegments.Row := { label := "Pear", level := some 1 }
    let fruits : ReportSegments.Row := { label := "Fruits", subtable := some { rows := [pear] } }
    let others : ReportSegments.Row := { label := "Others", subtable := some {} }
    let counted : ReportSegments.Row := { pear with columns := visits, metadata := visits }
    let table : ReportSegments.Table := { rows := [fruits, others] }
    let table' : ReportSegments.Table := {
      rows := [
        { fruits with subtable := some { rows := [counted], summary := some others } },
        { others with subtable := some { summary := some counted } }]
      summary := some counted
    }
    (rules.separator = rules'.separator ∧ rules.noDataLabel = rules'.noDataLabel ∧
      table.outline = table'.outline) ∧
    ((ofTable rules table).row? ⟨1, 0⟩).map Row.label = some "Pear" ∧
    ((ofTable rules' table').row? ⟨1, 0⟩).map Row.label = some "~" ∧
    SameLabels (ofTable rules table) (ofTable rules' table') rules.separator rules'.separator ∧
    ∀ passes : Pipeline,
      SameLabels (ofTable rules table) (ofTable rules' (passes.run table').1) rules.separator
        rules'.separator := by
  intro rules rules' visits pear fruits others counted table table'
  exact ⟨⟨rfl, rfl, rfl⟩, by decide, by decide, sameLabels_ofTable rfl rfl rfl⟩

end Tree
end Display
end ReportSegments
