import ReportSegments.Report.Path
import ReportSegments.Report.Walk

/-!
This module contains the theory of the walk over a table: induction over nested tables, what two
changes of the metadata in a row do together, and at which paths they are seen.
-/

namespace ReportSegments

theorem Row.eta (row : Row) :
    Row.mk row.label row.columns row.metadata row.subtable row.level = row := by
  cases row
  rfl

namespace Rows

theorem nested_induction {motive : Table → Prop}
    (step : ∀ (rows : List Row) (summary : Option Row),
      (∀ row ∈ rows, ∀ subtable, row.subtable = some subtable → motive subtable) →
      (∀ row ∈ summary, ∀ subtable, row.subtable = some subtable → motive subtable) →
      motive ⟨rows, summary⟩)
    (table : Table) : motive table := by
  rcases table with ⟨rows, summary⟩
  apply step
  . intro row hrow subtable hsub
    exact nested_induction step subtable
  . intro row hrow subtable hsub
    exact nested_induction step subtable
termination_by sizeOf table
decreasing_by
  . have := List.sizeOf_lt_of_mem hrow
    rcases row with ⟨label, columns, metadata, subtable', level⟩
    dsimp at hsub
    subst hsub
    simp at this ⊢
    omega
  . rcases row with ⟨label, columns, metadata, subtable', level⟩
    dsimp at hsub
    subst hsub
    rw [Option.mem_def] at hrow
    subst hrow
    simp
    omega

theorem mapMetadataRow_eq (f : RowId → Row → Fields) (i : Nat) (row : Row) :
    mapMetadataRow f i row =
      { row with
        metadata := f (.index i) row
        subtable := row.subtable.map (mapMetadata f) } := by
  rcases row with ⟨label, columns, metadata, subtable, level⟩
  unfold mapMetadataRow
  cases subtable with
  | none => simp only [mapMetadataSubtable, Option.map_none]
  | some table => simp only [mapMetadataSubtable, Option.map_some]

theorem getElem?_mapMetadataRows (f : RowId → Row → Fields) (i j : Nat) (rows : List Row) :
    (mapMetadataRows f i rows)[j]? = rows[j]?.map (mapMetadataRow f (i + j)) := by
  induction rows generalizing i j with
  | nil => simp [mapMetadataRows]
  | cons row rows ih =>
    rw [mapMetadataRows]
    cases j with
    | zero => simp
    | succ j =>
      simp only [List.getElem?_cons_succ]
      rw [ih]
      congr 2
      omega

theorem mapMetadata_mapMetadata (f : RowId → Row → Fields) {g : RowId → Row → Fields}
    (hg : ∀ id row subtable, g id { row with subtable } = g id row) (table : Table) :
    (table.mapMetadata f).mapMetadata g =
      table.mapMetadata fun id row => g id { row with metadata := f id row } := by
  induction table using nested_induction with
  | step rows summary ih _ =>
    simp only [mapMetadata, Rows.mk.injEq]
    constructor
    . apply List.ext_getElem?
      intro j
      simp only [getElem?_mapMetadataRows, Option.map_map]
      apply Option.map_congr
      intro row hrow
      have hsub := ih row (List.mem_of_getElem? hrow)
      simp only [Function.comp_apply, mapMetadataRow_eq, Row.mk.injEq, true_and, and_true]
      constructor
      . exact hg _ { row with metadata := f _ row } _
      . rw [Option.map_map]
        apply Option.map_congr
        exact hsub
    . rw [Option.map_map]
      rfl

theorem mapMetadata_metadata (table : Table) :
    table.mapMetadata (fun _ row => row.metadata) = table := by
  induction table using nested_induction with
  | step rows summary ih _ =>
    simp only [mapMetadata, Row.eta, Option.map_id', Rows.mk.injEq, and_true]
    apply List.ext_getElem?
    intro j
    rw [getElem?_mapMetadataRows]
    cases hrow : rows[j]? with
    | none => rfl
    | some row =>
      have hsub := ih row (List.mem_of_getElem? hrow)
      rw [Option.map_some, mapMetadataRow_eq]
      rcases row with ⟨label, columns, metadata, subtable, level⟩
      cases subtable with
      | none => rfl
      | some subtable => simp [hsub subtable rfl]

/--
Whether the walk comes to the row at a path: the rows that it goes through are regular.
-/
def isWalked (path : List RowId) : Bool :=
  path.dropLast.all (!·.isSummary)

def mapMetadataAt (f : RowId → Row → Fields) (path : List RowId) (row : Row) : Row :=
  match isWalked path, path.getLast? with
  | true, some (.index i) => mapMetadataRow f i row
  | true, some .summary => { row with metadata := f .summary row }
  | _, _ => row

theorem metadata_mapMetadataAt (f : RowId → Row → Fields) (path : List RowId) (row : Row) :
    (mapMetadataAt f path row).metadata =
      match isWalked path, path.getLast? with
      | true, some id => f id row
      | _, _ => row.metadata := by
  unfold mapMetadataAt
  split
  . next hwalked hlast =>
    rw [hwalked, hlast, mapMetadataRow_eq]
  . next hwalked hlast =>
    rw [hwalked, hlast]
  . next hindex hsummary =>
    split
    . next id hwalked hlast =>
      cases id with
      | index i => exact absurd hlast (hindex i hwalked)
      | summary => exact absurd hlast (hsummary hwalked)
    . rfl

theorem isWalked_eq_false_iff {path : List RowId} :
    isWalked path = false ↔ RowId.summary ∈ path.dropLast := by
  unfold isWalked
  rw [List.all_eq_false]
  constructor
  . rintro ⟨id, hmem, hid⟩
    cases id with
    | index i => simp [RowId.isSummary] at hid
    | summary => exact hmem
  . intro hmem
    exact ⟨.summary, hmem, by decide⟩

theorem isWalked_of_not_mem {path : List RowId} (h : .summary ∉ path) : isWalked path = true := by
  cases hwalked : isWalked path with
  | true => rfl
  | false => exact absurd ((List.dropLast_sublist path).mem (isWalked_eq_false_iff.1 hwalked)) h

theorem mapMetadataAt_eq_self (f : RowId → Row → Fields) {path : List RowId}
    (h : isWalked path = false) (row : Row) : mapMetadataAt f path row = row := by
  unfold mapMetadataAt
  rw [h]

theorem mapMetadataAt_eq (f : RowId → Row → Fields) {path : List RowId} {id : RowId}
    (h : isWalked path = true) (hlast : path.getLast? = some id) (row : Row) :
    ∃ subtable, mapMetadataAt f path row = { row with metadata := f id row, subtable } ∧
      subtable.isSome = row.subtable.isSome := by
  unfold mapMetadataAt
  rw [h, hlast]
  cases id with
  | index i =>
    dsimp only
    rw [mapMetadataRow_eq]
    exact ⟨row.subtable.map (mapMetadata f), rfl, Option.isSome_map⟩
  | summary => exact ⟨row.subtable, rfl, rfl⟩

theorem flattenRow_eq (id : RowId) (row : Row) :
    flattenRow id row =
      ([id], row) :: (row.subtable.elim [] flatten).map fun entry => (id :: entry.1, entry.2) := by
  rcases row with ⟨label, columns, metadata, subtable, level⟩
  cases subtable <;> rfl

theorem ne_nil_of_mem_flattenRow {id : RowId} {row : Row} {entry : List RowId × Row}
    (h : entry ∈ flattenRow id row) : entry.1 ≠ [] := by
  rw [flattenRow_eq, List.mem_cons, List.mem_map] at h
  rcases h with rfl | ⟨_, _, rfl⟩ <;> simp

theorem ne_nil_of_mem_flattenRows {i : Nat} {rows : List Row} {entry : List RowId × Row}
    (h : entry ∈ flattenRows i rows) : entry.1 ≠ [] := by
  induction rows generalizing i with
  | nil => simp [flattenRows] at h
  | cons row rows ih =>
    rw [flattenRows, List.mem_append] at h
    cases h with
    | inl h => exact ne_nil_of_mem_flattenRow h
    | inr h => exact ih h

theorem ne_nil_of_mem_flatten {table : Table} {entry : List RowId × Row}
    (h : entry ∈ table.flatten) : entry.1 ≠ [] := by
  rcases table with ⟨rows, summary⟩
  rw [flatten, List.mem_append] at h
  cases h with
  | inl h => exact ne_nil_of_mem_flattenRows h
  | inr h =>
    cases summary with
    | none => simp [flattenSummary] at h
    | some row => exact ne_nil_of_mem_flattenRow h

theorem mapMetadataAt_cons_index (f : RowId → Row → Fields) (i : Nat) {path : List RowId}
    (hpath : path ≠ []) (row : Row) :
    mapMetadataAt f (.index i :: path) row = mapMetadataAt f path row := by
  unfold mapMetadataAt isWalked
  rw [List.dropLast_cons_of_ne_nil hpath, List.getLast?_cons_of_ne_nil hpath]
  rfl

theorem mapMetadataAt_cons_summary (f : RowId → Row → Fields) {path : List RowId}
    (hpath : path ≠ []) (row : Row) :
    mapMetadataAt f (.summary :: path) row = row := by
  unfold mapMetadataAt isWalked
  rw [List.dropLast_cons_of_ne_nil hpath]
  rfl

theorem flattenRow_mapMetadataRow (f : RowId → Row → Fields) (i : Nat) (row : Row)
    (ih : ∀ subtable, row.subtable = some subtable →
      (subtable.mapMetadata f).flatten =
        subtable.flatten.map fun entry => (entry.1, mapMetadataAt f entry.1 entry.2)) :
    flattenRow (.index i) (mapMetadataRow f i row) =
      (flattenRow (.index i) row).map fun entry =>
        (entry.1, mapMetadataAt f entry.1 entry.2) := by
  rw [flattenRow_eq, flattenRow_eq, List.map_cons]
  congr 1
  rw [mapMetadataRow_eq]
  cases hsub : row.subtable with
  | none => rfl
  | some subtable =>
    simp only [Option.map_some, Option.elim_some, ih subtable hsub, List.map_map]
    apply List.map_congr_left
    intro entry hentry
    simp only [Function.comp_apply]
    rw [mapMetadataAt_cons_index f i (ne_nil_of_mem_flatten hentry)]

theorem flattenRows_mapMetadataRows (f : RowId → Row → Fields) (i : Nat) (rows : List Row)
    (ih : ∀ row ∈ rows, ∀ subtable, row.subtable = some subtable →
      (subtable.mapMetadata f).flatten =
        subtable.flatten.map fun entry => (entry.1, mapMetadataAt f entry.1 entry.2)) :
    flattenRows i (mapMetadataRows f i rows) =
      (flattenRows i rows).map fun entry => (entry.1, mapMetadataAt f entry.1 entry.2) := by
  induction rows generalizing i with
  | nil => rfl
  | cons row rows ihrows =>
    simp only [mapMetadataRows, flattenRows, List.map_append]
    rw [flattenRow_mapMetadataRow f i row (ih row (by simp))]
    rw [ihrows]
    intro row hrow
    apply ih
    simp [hrow]

theorem flattenRow_summary (f : RowId → Row → Fields) (row : Row) :
    flattenRow .summary { row with metadata := f .summary row } =
      (flattenRow .summary row).map fun entry => (entry.1, mapMetadataAt f entry.1 entry.2) := by
  rw [flattenRow_eq, flattenRow_eq, List.map_cons, List.map_map]
  congr 1
  apply List.map_congr_left
  intro entry hentry
  have hpath : entry.1 ≠ [] := by
    cases hsub : row.subtable with
    | none => simp [hsub] at hentry
    | some subtable => exact ne_nil_of_mem_flatten (by simpa [hsub] using hentry)
  simp only [Function.comp_apply]
  rw [mapMetadataAt_cons_summary f hpath]

theorem flatten_mapMetadata (f : RowId → Row → Fields) (table : Table) :
    (table.mapMetadata f).flatten =
      table.flatten.map fun entry => (entry.1, mapMetadataAt f entry.1 entry.2) := by
  induction table using nested_induction with
  | step rows summary ih _ =>
    simp only [mapMetadata, flatten, List.map_append]
    rw [flattenRows_mapMetadataRows f 0 rows ih]
    congr 1
    cases summary with
    | none => rfl
    | some row => exact flattenRow_summary f row

end Rows
end ReportSegments
