import ReportSegments.Proofs.Json.Written
import ReportSegments.Proofs.Report.Walk
import ReportSegments.Report.Writer

/-!
This module contains that the JSON form of a document comes back when it is read, as JSON: the
columns and metadata of its rows do, and no name is written twice.
-/

namespace ReportSegments

/--
Fields whose values come back when they are written and read.
-/
def Fields.IsExact (fields : Fields) : Prop :=
  ∀ entry ∈ fields.entries, entry.2.Exact

/--
A table in which the columns and metadata of every row come back, at any depth.
-/
def Rows.IsExact (table : Table) : Prop :=
  ∀ entry ∈ table.flatten, entry.2.columns.IsExact ∧ entry.2.metadata.IsExact

structure Row.IsExact (row : Row) : Prop where
  columns : row.columns.IsExact
  metadata : row.metadata.IsExact
  subtable : ∀ subtable, row.subtable = some subtable → subtable.IsExact

namespace Rows

variable {table : Table} {row : Row}

theorem isExact_of_flattenRow (id : RowId)
    (h : ∀ entry ∈ flattenRow id row, entry.2.columns.IsExact ∧ entry.2.metadata.IsExact) :
    row.IsExact := by
  rw [flattenRow_eq, List.forall_mem_cons] at h
  obtain ⟨⟨hcolumns, hmetadata⟩, hbelow⟩ := h
  refine ⟨hcolumns, hmetadata, ?_⟩
  intro subtable hsub entry hentry
  rw [hsub, List.forall_mem_map] at hbelow
  apply hbelow
  exact hentry

theorem flattenRow_subset {rows : List Row} (hrow : row ∈ rows) (i : Nat) :
    ∃ j, flattenRow (.index j) row ⊆ flattenRows i rows := by
  induction rows generalizing i with
  | nil => simp at hrow
  | cons first rows ih =>
    rw [flattenRows]
    cases List.mem_cons.1 hrow with
    | inl heq =>
      subst heq
      exact ⟨i, List.subset_append_left _ _⟩
    | inr hmem =>
      obtain ⟨j, hj⟩ := ih hmem (i + 1)
      exact ⟨j, List.subset_append_of_subset_right _ hj⟩

theorem IsExact.rows (h : table.IsExact) (hrow : row ∈ table.rows) : row.IsExact := by
  rcases table with ⟨rows, summary⟩
  obtain ⟨j, hj⟩ := flattenRow_subset hrow 0
  apply isExact_of_flattenRow (.index j)
  intro entry hentry
  apply h
  apply List.mem_append_left
  exact hj hentry

theorem IsExact.summary (h : table.IsExact) (hrow : row ∈ table.summary) : row.IsExact := by
  rcases table with ⟨rows, summary⟩
  obtain rfl := hrow
  apply isExact_of_flattenRow .summary
  intro entry hentry
  apply h
  apply List.mem_append_right
  exact hentry

theorem json_eq (table : Table) :
    table.json =
      .object (("rows", .array (table.rows.map Row.json)) ::
        Json.optional "summary_row" (table.summary.map Row.json)) := by
  rcases table with ⟨rows, summary⟩
  have hrows : Row.jsonRows rows = rows.map Row.json := by
    induction rows with
    | nil => simp [Row.jsonRows]
    | cons row rows ih => simp [Row.jsonRows, ih]
  cases summary <;> simp [json, Row.jsonSummary, hrows]

end Rows

theorem Row.json_eq (row : Row) :
    row.json =
      .object (("label", .string row.label) :: ("columns", .object row.columns.entries) ::
        ("metadata", .object row.metadata.entries) ::
        (Json.optional "subtable" (row.subtable.map Rows.json) ++
          Json.optional "level" (row.level.map fun level => .ofNat level.toNat))) := by
  rcases row with ⟨label, columns, metadata, subtable, level⟩
  cases subtable <;> simp [json, jsonSubtable]

theorem Json.exact_optional {name : String} {value : Option α} {written : α → Json}
    (h : ∀ a ∈ value, (written a).Exact) :
    ∀ member ∈ optional name (value.map written), member.2.Exact := by
  simpa [optional] using h

theorem Fields.exact_object {fields : Fields} (h : fields.IsExact) :
    (Json.object fields.entries).Exact :=
  .object fields.distinct h

theorem ValueTable.exact_json (table : ValueTable) : table.json.Exact := by
  apply Json.Exact.object
  . rw [List.map_map, List.nodup_iff_pairwise_ne, List.pairwise_map]
    apply table.sorted.imp
    intro a b hlt heq
    have heq : a.1 = b.1 := heq
    apply String.lt_irrefl b.1
    rwa [heq] at hlt
  . rw [List.forall_mem_map]
    intro entry _
    exact .string entry.2

theorem Segment.exact_json (segment : Segment) : segment.json.Exact := by
  apply Json.Exact.object
  . cases segment.name <;> cases segment.valueOfLabel <;> simp [Json.optional]
  . simp only [List.forall_mem_append, List.forall_mem_cons]
    refine ⟨⟨⟨.string _, ?_⟩, ?_⟩, .bool _, .bool _, .bool _, by simp⟩
    . apply Json.exact_optional
      intro name _
      exact .string name
    . apply Json.exact_optional
      intro table _
      exact table.exact_json

theorem Dimension.exact_json (dimension : Dimension) : dimension.json.Exact := by
  apply Json.Exact.object
  . cases dimension.name <;> simp [Json.optional]
  . rw [List.forall_mem_append, List.forall_mem_singleton]
    constructor
    . apply Json.exact_optional
      intro name _
      exact .string name
    . apply Json.Exact.array
      rw [List.forall_mem_map]
      intro segment _
      exact segment.exact_json

theorem Row.exact_json {row : Row} (h : row.IsExact)
    (hsub : ∀ subtable, row.subtable = some subtable → subtable.json.Exact) : row.json.Exact := by
  rw [json_eq]
  apply Json.Exact.object
  . cases row.subtable <;> cases row.level <;> simp [Json.optional]
  . simp only [List.forall_mem_append, List.forall_mem_cons]
    refine ⟨.string _, Fields.exact_object h.columns, Fields.exact_object h.metadata, ?_, ?_⟩
    . apply Json.exact_optional
      exact hsub
    . apply Json.exact_optional
      intro level _
      exact .integer _

theorem Rows.IsExact.exact_json {table : Table} (h : table.IsExact) : table.json.Exact := by
  induction table using nested_induction with
  | step rows summary ihrows ihsummary =>
    rw [json_eq]
    apply Json.Exact.object
    . cases summary <;> simp [Json.optional]
    . rw [List.forall_mem_cons]
      constructor
      . apply Json.Exact.array
        rw [List.forall_mem_map]
        intro row hrow
        have hexact := h.rows hrow
        apply Row.exact_json hexact
        intro subtable hsub
        exact ihrows row hrow subtable hsub (hexact.subtable subtable hsub)
      . apply Json.exact_optional
        intro row hrow
        have hexact := h.summary hrow
        apply Row.exact_json hexact
        intro subtable hsub
        exact ihsummary row hrow subtable hsub (hexact.subtable subtable hsub)

theorem Row.IsExact.exact_json {row : Row} (h : row.IsExact) : row.json.Exact := by
  apply Row.exact_json h
  intro subtable hsub
  exact (h.subtable subtable hsub).exact_json

theorem Document.exact_json {document : Document} (h : document.table.IsExact) :
    document.json.Exact := by
  apply Json.Exact.object
  . cases document.dimension <;> simp [Json.optional]
  . simp only [List.forall_mem_append, List.forall_mem_cons]
    refine ⟨⟨.string _, ?_⟩, h.exact_json, by simp⟩
    apply Json.exact_optional
    intro dimension _
    exact dimension.exact_json

end ReportSegments
