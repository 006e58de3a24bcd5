/-!
This module contains tables as they are displayed. They are kept in the order in which they were
opened and refer to each other by number. Every table but the first was opened by a row of an
earlier one.
-/

namespace ReportSegments
namespace Display

structure RowRef where
  table : Nat
  row : Nat
deriving DecidableEq, Repr

structure Row where
  label : String
  /-- The text of a label that is shown truncated. -/
  fullLabel : Option String := none
  /-- The depth where a hierarchy is shown as a flat list. -/
  level : Option UInt32 := none
  /-- Whether the row only says that a table is empty. -/
  noData : Bool := false
  /-- The table that was opened last below the row. -/
  subtable : Option Nat := none
deriving DecidableEq, Repr

def Row.text (row : Row) : String :=
  row.fullLabel.getD row.label

/--
A table as it is displayed, with the row that opened it.
-/
structure Table where
  rows : List Row := []
  parent : Option RowRef := none
deriving DecidableEq, Repr

def rowIn? (tables : List Table) (place : RowRef) : Option Row :=
  tables[place.table]?.bind fun table => table.rows[place.row]?

structure Tree where
  tables : List Table
  nonempty : tables ≠ []
  /-- A table was opened by a row of an earlier table. -/
  opened : ∀ id table parent, tables[id]? = some table → table.parent = some parent →
    parent.table < id ∧ (rowIn? tables parent).isSome

namespace Tree

def empty : Tree where
  tables := [{}]
  nonempty := by simp
  opened := by
    intro id table parent h hparent
    cases id with
    | zero =>
      obtain rfl := Option.some.inj h
      contradiction
    | succ id => contradiction

def row? (tree : Tree) (place : RowRef) : Option Row :=
  rowIn? tree.tables place

def parent? (tree : Tree) (table : Nat) : Option RowRef :=
  tree.tables[table]?.bind Table.parent

/--
The place where the next row of a table will be.
-/
def end? (tree : Tree) (table : Nat) : Option RowRef :=
  tree.tables[table]?.map fun displayed => ⟨table, displayed.rows.length⟩

def modifyRows (tables : List Table) (id : Nat) (f : List Row → List Row) : List Table :=
  tables.modify id fun table => { table with rows := f table.rows }

theorem length_modifyRows (tables : List Table) (id : Nat) (f : List Row → List Row) :
    (modifyRows tables id f).length = tables.length := by
  unfold modifyRows
  rw [List.length_modify]

theorem getElem?_modifyRows {tables : List Table} {id id' : Nat} {f : List Row → List Row} :
    (modifyRows tables id f)[id']? =
      tables[id']?.map fun table =>
        if id = id' then { table with rows := f table.rows } else table := by
  unfold modifyRows
  rw [List.getElem?_modify]
  by_cases h : id = id' <;> simp [h]

theorem isSome_rowIn?_modifyRows {tables : List Table} {id : Nat} {f : List Row → List Row}
    {place : RowRef} (hf : ∀ rows, rows.length ≤ (f rows).length)
    (h : (rowIn? tables place).isSome) : (rowIn? (modifyRows tables id f) place).isSome := by
  unfold rowIn? at h ⊢
  rw [getElem?_modifyRows]
  cases htable : tables[place.table]? with
  | none =>
    rw [htable] at h
    contradiction
  | some table =>
    rw [htable, Option.bind_some] at h
    rw [Option.map_some, Option.bind_some]
    split
    . rw [isSome_getElem?] at h ⊢
      exact Nat.lt_of_lt_of_le h (hf table.rows)
    . exact h

theorem isSome_rowIn?_append {tables : List Table} {place : RowRef} (more : List Table)
    (h : (rowIn? tables place).isSome) : (rowIn? (tables ++ more) place).isSome := by
  obtain ⟨row, hrow⟩ := Option.isSome_iff_exists.1 h
  obtain ⟨table, htable, hget⟩ := Option.bind_eq_some_iff.1 hrow
  obtain ⟨hlt, -⟩ := List.getElem?_eq_some_iff.1 htable
  unfold rowIn?
  rw [List.getElem?_append_left hlt, htable, Option.bind_some, hget]
  rfl

theorem opened_modifyRows (tree : Tree) (id : Nat) {f : List Row → List Row}
    (hf : ∀ rows, rows.length ≤ (f rows).length) (id' : Nat) (table : Table) (parent : RowRef)
    (h : (modifyRows tree.tables id f)[id']? = some table) (hparent : table.parent = some parent) :
    parent.table < id' ∧ (rowIn? (modifyRows tree.tables id f) parent).isSome := by
  rw [getElem?_modifyRows] at h
  obtain ⟨table', htable', rfl⟩ := Option.map_eq_some_iff.1 h
  have hparent' : table'.parent = some parent := by
    split at hparent <;> exact hparent
  have := tree.opened id' table' parent htable' hparent'
  exact ⟨this.1, isSome_rowIn?_modifyRows hf this.2⟩

/--
What is opened below a row comes behind the table of the row, and behind all others.
-/
theorem opened_modifyRows_append (tree : Tree) {place : RowRef} (h : (tree.row? place).isSome)
    {f : List Row → List Row} (hf : ∀ rows, rows.length ≤ (f rows).length) (id : Nat)
    (table : Table) (parent : RowRef)
    (htable : (modifyRows tree.tables place.table f ++ [{ parent := some place }])[id]? =
      some table)
    (hparent : table.parent = some parent) :
    parent.table < id ∧
      (rowIn? (modifyRows tree.tables place.table f ++ [{ parent := some place }])
        parent).isSome := by
  rw [List.getElem?_append] at htable
  split at htable
  . obtain ⟨hlt, hrow⟩ := tree.opened_modifyRows place.table hf id table parent htable hparent
    exact ⟨hlt, isSome_rowIn?_append _ hrow⟩
  . next hid =>
    rw [length_modifyRows, Nat.not_lt] at hid
    obtain rfl := List.mem_singleton.1 (List.mem_of_getElem? htable)
    obtain rfl := Option.some.inj hparent
    refine ⟨?_, isSome_rowIn?_append _ (isSome_rowIn?_modifyRows hf h)⟩
    obtain ⟨row, hrow⟩ := Option.isSome_iff_exists.1 h
    obtain ⟨shown, hshown, -⟩ := Option.bind_eq_some_iff.1 hrow
    exact Nat.lt_of_lt_of_le (List.getElem?_eq_some_iff.1 hshown).1 hid

def push (tree : Tree) (id : Nat) (row : Row) : Tree where
  tables := modifyRows tree.tables id (· ++ [row])
  nonempty := by simp [modifyRows, tree.nonempty]
  opened := tree.opened_modifyRows id (by simp)

def openBelow (tree : Tree) (place : RowRef) (h : (tree.row? place).isSome) : Tree where
  tables :=
    modifyRows tree.tables place.table
      (·.modify place.row fun row => { row with subtable := some tree.tables.length }) ++
      [{ parent := some place }]
  nonempty := by simp
  opened := tree.opened_modifyRows_append h (by simp)

/--
Adds a row at the end of a table, if there is one: the new tree and the place of the row.
-/
def push? (tree : Tree) (id : Nat) (row : Row) : Option (Tree × RowRef) :=
  (tree.end? id).map fun place => (tree.push id row, place)

/--
Opens an empty table below a row, if there is one: the new tree and the number of the table.
-/
def openBelow? (tree : Tree) (place : RowRef) : Option (Tree × Nat) :=
  if h : (tree.row? place).isSome then some (tree.openBelow place h, tree.tables.length) else none

/--
The place of the row at a path of indices: the first one in the first table, each further one in the
table that was opened last below the row before.
-/
def resolve? (tree : Tree) : List Nat → Option RowRef
  | [] => none
  | i :: path => go 0 i path
where
  go (table i : Nat) : List Nat → Option RowRef
    | [] => (tree.row? ⟨table, i⟩).map fun _ => ⟨table, i⟩
    | j :: path => ((tree.row? ⟨table, i⟩).bind Row.subtable).bind fun table => go table j path

end Tree
end Display
end ReportSegments
