import ReportSegments.Proofs.Raw.Record
import ReportSegments.Proofs.Report.Written
import ReportSegments.Report.Reader

/-!
This module contains that a written report document is read back, part by part, from the scalars of
a segment up to the nested tables.
-/

namespace ReportSegments

open Raw (RecordStyle)

theorem Json.lookup_optional (name other : String) (value : Option Json) :
    (optional name value).lookup other = if other = name then value else none := by
  cases value with
  | none => simp [optional]
  | some value =>
    by_cases h : other = name
    . simp [optional, h]
    . have hne : (other == name) = false := beq_eq_false_iff_ne.2 h
      simp [optional, List.lookup_cons, h, hne]

namespace ValueTable

@[ext]
theorem ext {table other : ValueTable} (h : table.entries = other.entries) : table = other := by
  cases table
  cases other
  simp_all

theorem insertEntry_of_forall_lt {label : String} {entries : List (String × String)}
    (h : ∀ entry ∈ entries, entry.1 < label) (value : String) :
    insertEntry label value entries = entries ++ [(label, value)] := by
  induction entries with
  | nil => simp [insertEntry]
  | cons entry entries ih =>
    obtain ⟨hentry, hentries⟩ := List.forall_mem_cons.1 h
    simp [insertEntry, String.lt_asymm hentry, hentry, ih hentries]

theorem entries_foldl_insert {entries : List (String × String)} {table : ValueTable}
    (h : (table.entries ++ entries).Pairwise fun a b => a.1 < b.1) :
    (entries.foldl (fun table entry => table.insert entry.1 entry.2) table).entries =
      table.entries ++ entries := by
  induction entries generalizing table with
  | nil => simp
  | cons entry entries ih =>
    have hinsert : (table.insert entry.1 entry.2).entries = table.entries ++ [entry] := by
      apply insertEntry_of_forall_lt
      intro other hother
      rw [List.pairwise_append] at h
      apply h.2.2 other hother
      simp
    rw [List.foldl_cons, ih]
    . simp [hinsert]
    . simpa [hinsert] using h

theorem ofList_entries (table : ValueTable) : ofList table.entries = table := by
  apply ext
  apply entries_foldl_insert
  exact table.sorted

end ValueTable

theorem Fields.ofList_entries (fields : Fields) : ofList fields.entries = fields := by
  rcases fields with ⟨entries, distinct⟩
  simp [ofList, Members.ofList_of_nodup distinct]

namespace Raw

variable (style : RecordStyle)

theorem valueTable?_json (table : ValueTable) : valueTable? table.json.raw = some table := by
  unfold valueTable? ValueTable.json
  rw [entries?_object]
  . simp [ValueTable.ofList_entries]
  . intro entry _
    rfl

theorem fields?_object {fields : Fields} (h : (Json.object fields.entries).Exact) :
    fields? (Json.object fields.entries).raw = some fields := by
  have hread : ∀ entry ∈ fields.entries, json? (id entry.2).raw = some entry.2 := by
    intro entry hentry
    apply Json.Exact.json?_raw
    exact h.of_mem_object hentry
  have hentries := entries?_object hread
  unfold fields?
  simp at hentries
  rw [hentries]
  simp [Fields.ofList_entries]

theorem segment?_json (segment : Segment) : segment? style segment.json.raw = some segment := by
  obtain ⟨fields, hfields, hlookup⟩ := exists_record?_object style
    ["key", "name", "label_to_value", "has_custom_resolver", "custom_value_filter",
      "suggested_values_hook"] segment.exact_json
  simp [List.lookup_append, List.lookup_cons, Json.lookup_optional, -Option.map_map] at hlookup
  obtain ⟨hkey, hname, hvalues, hresolver, hfilter, hhook⟩ := hlookup
  unfold segment? Segment.json
  rw [hfields]
  simp only [Option.bind_eq_bind, Option.bind_some]
  rw [field?_of_lookup hkey, field?_nullable rfl (fun _ _ => rfl) hname,
    field?_nullable rfl (fun table _ => valueTable?_json table) hvalues,
    field?_of_lookup hresolver, field?_of_lookup hfilter, field?_of_lookup hhook]
  rfl

theorem dimension?_json (dimension : Dimension) :
    dimension? style dimension.json.raw = some dimension := by
  obtain ⟨fields, hfields, hlookup⟩ :=
    exists_record?_object style ["name", "segments"] dimension.exact_json
  simp [List.lookup_append, List.lookup_cons, Json.lookup_optional, -Option.map_map] at hlookup
  obtain ⟨hname, hsegments⟩ := hlookup
  unfold dimension? Dimension.json
  rw [hfields]
  simp only [Option.bind_eq_bind, Option.bind_some]
  rw [field?_nullable rfl (fun _ _ => rfl) hname, field?_of_lookup hsegments,
    list?_array fun segment _ => segment?_json style segment]
  rfl

theorem label?_string (s : String) : label? (Json.string s).raw = some s := by
  simp [label?, Json.raw, json?, Row.labelOf]

theorem level?_ofNat (level : UInt32) : level? (Json.ofNat level.toNat).raw = some level := by
  have hlt : level.toNat < 4294967296 := level.toNat_lt
  have hval : (Integer.ofNat level.toNat).val = level.toNat := by
    simp [Integer.ofNat]
    omega
  simp [level?, Json.ofNat, Json.raw, nat?, hval]
  omega

variable {style}

theorem table?_null (depth : Nat) : table? style depth .null = none := by
  cases depth <;> simp [table?, record?]

theorem row?_null (depth : Nat) : row? style depth .null = none := by
  cases depth <;> simp [row?, record?]

end Raw

theorem Rows.depth_row_lt {table : Table} {row : Row} (h : row ∈ table.rows) :
    row.json.raw.depth < table.json.raw.depth := by
  have hitem : row.json.raw.depth < (Json.array (table.rows.map Row.json)).raw.depth :=
    Json.depth_raw_lt_of_mem_array (List.mem_map_of_mem h)
  apply Nat.lt_trans hitem
  rw [json_eq]
  apply Json.depth_raw_lt_of_mem_object "rows"
  simp

theorem Rows.depth_summary_lt {table : Table} {row : Row} (h : row ∈ table.summary) :
    row.json.raw.depth < table.json.raw.depth := by
  rw [json_eq, Option.mem_def.1 h]
  apply Json.depth_raw_lt_of_mem_object "summary_row"
  simp [Json.optional]

theorem Row.depth_subtable_lt {row : Row} {subtable : Table} (h : row.subtable = some subtable) :
    subtable.json.raw.depth < row.json.raw.depth := by
  rw [json_eq, h]
  apply Json.depth_raw_lt_of_mem_object "subtable"
  simp [Json.optional]

variable {style : RecordStyle}

/--
A row is read back if its sub-table is, with a level less.
-/
theorem Row.row?_json {row : Row} (h : row.IsExact) {depth : Nat}
    (hsub : ∀ subtable ∈ row.subtable, Raw.table? style depth subtable.json.raw = some subtable) :
    Raw.row? style (depth + 1) row.json.raw = some row := by
  have hexact := h.exact_json
  rw [json_eq] at hexact ⊢
  obtain ⟨fields, hfields, hlookup⟩ := Raw.exists_record?_object style
    ["label", "columns", "metadata", "subtable", "level"] hexact
  simp [List.lookup_append, List.lookup_cons, Json.lookup_optional, -Option.map_map] at hlookup
  obtain ⟨hlabel, hcolumns, hmetadata, hsubtable, hlevel⟩ := hlookup
  unfold Raw.row?
  rw [hfields]
  simp only [Option.bind_eq_bind, Option.bind_some]
  rw [Raw.field?_of_lookup hlabel, Raw.label?_string,
    Raw.field?_of_lookup hcolumns, Raw.fields?_object (Fields.exact_object h.columns),
    Raw.field?_of_lookup hmetadata, Raw.fields?_object (Fields.exact_object h.metadata),
    Raw.field?_nullable (Raw.table?_null depth) hsub hsubtable,
    Raw.field?_nullable rfl (fun level _ => Raw.level?_ofNat level) hlevel]
  simp [eta]

theorem Row.row?_json_of_depth_le {row : Row} (h : row.IsExact)
    (hsub : ∀ subtable, row.subtable = some subtable → ∀ {depth},
      subtable.json.raw.depth ≤ depth → Raw.table? style depth subtable.json.raw = some subtable)
    {depth : Nat} (hdepth : row.json.raw.depth ≤ depth) :
    Raw.row? style depth row.json.raw = some row := by
  cases depth with
  | zero =>
    have := Raw.depth_pos row.json.raw
    omega
  | succ depth =>
    apply row?_json h
    intro subtable hmem
    apply hsub subtable hmem
    have := depth_subtable_lt hmem
    omega

theorem Rows.table?_json {table : Table} (h : table.IsExact) {depth : Nat}
    (hrows : ∀ row ∈ table.rows, Raw.row? style depth row.json.raw = some row)
    (hsummary : ∀ row ∈ table.summary, Raw.row? style depth row.json.raw = some row) :
    Raw.table? style (depth + 1) table.json.raw = some table := by
  have hexact := h.exact_json
  rw [json_eq] at hexact ⊢
  obtain ⟨fields, hfields, hlookup⟩ :=
    Raw.exists_record?_object style ["rows", "summary_row"] hexact
  simp [List.lookup_cons, Json.lookup_optional, -Option.map_map, -List.map_map] at hlookup
  obtain ⟨hrows', hsummary'⟩ := hlookup
  unfold Raw.table?
  rw [hfields]
  simp only [Option.bind_eq_bind, Option.bind_some]
  rw [Raw.field?_of_lookup hrows', Raw.list?_array hrows,
    Raw.field?_nullable (Raw.row?_null depth) hsummary hsummary']
  rfl

/--
A table is read back if at least as many levels are read as there are in its JSON form.
-/
theorem Rows.table?_json_of_depth_le {table : Table} (h : table.IsExact) {depth : Nat}
    (hdepth : table.json.raw.depth ≤ depth) :
    Raw.table? style depth table.json.raw = some table := by
  induction table using nested_induction generalizing depth with
  | step rows summary ihrows ihsummary =>
    cases depth with
    | zero =>
      have := Raw.depth_pos (json ⟨rows, summary⟩).raw
      omega
    | succ depth =>
      apply table?_json h
      . intro row hrow
        apply Row.row?_json_of_depth_le (h.rows hrow)
        . intro subtable hsub depth
          apply ihrows row hrow subtable hsub
          exact (h.rows hrow).subtable subtable hsub
        . have : row.json.raw.depth < (json ⟨rows, summary⟩).raw.depth := depth_row_lt hrow
          omega
      . intro row hrow
        apply Row.row?_json_of_depth_le (h.summary hrow)
        . intro subtable hsub depth
          apply ihsummary row hrow subtable hsub
          exact (h.summary hrow).subtable subtable hsub
        . have : row.json.raw.depth < (json ⟨rows, summary⟩).raw.depth := depth_summary_lt hrow
          omega

/--
A document is read out of an object that has its name, its dimension and its table, whatever other
members there are.
-/
theorem Raw.document?_object {members : List (String × Json)} {name : String}
    {dimension : Option Dimension} {table : Table} (hexact : (Json.object members).Exact)
    (hname : members.lookup "name" = some (.string name))
    (hdimension : members.lookup "dimension" = dimension.map Dimension.json)
    (htable : members.lookup "table" = some table.json) (h : table.IsExact) :
    document? style (Json.object members).raw = some { name, dimension, table } := by
  have hdepth : table.json.raw.depth ≤ (Json.object members).raw.depth := by
    obtain ⟨front, behind, hmembers, -⟩ := List.lookup_eq_some_iff.1 htable
    apply Nat.le_of_lt
    apply Json.depth_raw_lt_of_mem_object "table"
    simp [hmembers]
  obtain ⟨fields, hfields, hlookup⟩ :=
    exists_record?_object style ["name", "dimension", "table"] hexact
  simp [hname, hdimension, htable, -Option.map_map] at hlookup
  obtain ⟨hname', hdimension', htable'⟩ := hlookup
  unfold document?
  rw [hfields]
  simp only [Option.bind_eq_bind, Option.bind_some]
  rw [field?_of_lookup hname',
    field?_nullable rfl (fun dimension _ => dimension?_json style dimension) hdimension',
    field?_of_lookup htable', Rows.table?_json_of_depth_le h hdepth]
  rfl

namespace Document

open Json (Dialect strictRecords nestingLimit)

theorem parse?_of_scans {cs : List Char} {value : Json} {document : Document} (h : value.Exact)
    (hscans : (Dialect.strict nestingLimit).Scans cs value.lexemes)
    (hnesting : value.nesting ≤ nestingLimit)
    (hread : Raw.document? strictRecords value.raw = some document) :
    parse? (String.ofList cs) = some document := by
  unfold parse?
  rw [Json.read?_of_scans h hscans, h.rawAt_eq_raw, Option.bind_some, hread]
  . rfl
  . omega

/--
A document that is written in the compact form is read back, if the numbers in it are integers and
at most 127 containers are inside each other.
-/
theorem parse?_compact_json (document : Document) (hexact : document.table.IsExact)
    (hnesting : document.json.nesting ≤ 127) : parse? document.json.compact = some document := by
  have hjson := exact_json hexact
  apply parse?_of_scans hjson hjson.scans_compactChars hnesting
  apply Raw.document?_object hjson
  . rfl
  . simp [List.lookup_append, List.lookup_cons, Json.lookup_optional]
  . simp [List.lookup_append, List.lookup_cons, Json.lookup_optional]
  . exact hexact

theorem parse?_compact_json_nested :
    let document : Document := {
      name := "Events.getCategory"
      dimension := some {
        segments := [{
          key := "eventCategory"
          valueOfLabel := some (.ofList [("b", "2"), ("a", "")])
          customValueFilter := true }] }
      table := {
        rows := [{
          label := "\"caf\u00e9\"\n\x01"
          columns := ⟨[("visits", .number (.integer ⟨-5, by decide, by decide⟩)), ("a", .null)],
            by decide⟩
          subtable := some { summary := some { label := "Others", level := some 4294967295 } } }]
        summary := some {
          metadata := ⟨[("segmentFilter", .null), ("ids", .array [.bool true, .object []])],
            by decide⟩ } } }
    document.table.IsExact ∧ document.json.nesting ≤ 127 ∧
      parse? document.json.compact = some document := by
  intro document
  have hexact : document.table.IsExact := by
    simp [Rows.IsExact, document, Rows.flatten, Rows.flattenRows, Rows.flattenRow,
      Rows.flattenSubtable, Rows.flattenSummary, Fields.IsExact, Fields.empty]
    constructor
    . rintro name value (⟨-, rfl⟩ | ⟨-, rfl⟩)
      . apply Json.Exact.integer
      . apply Json.Exact.null
    . rintro name value (⟨-, rfl⟩ | ⟨-, rfl⟩)
      . apply Json.Exact.null
      . apply Json.Exact.array
        simp [Json.Exact.bool, Json.Exact.object]
  have hnesting : document.json.nesting ≤ 127 := by decide
  exact ⟨hexact, hnesting, parse?_compact_json document hexact hnesting⟩

end Document
end ReportSegments
