import ReportSegments.Config.Basic
import ReportSegments.Proofs.Expression.Clause
import ReportSegments.Proofs.Pass.FirstWriter

/-!
This module contains what a run of the configured passes leaves as the filter of each row. An entry
of the configuration has an expression for a row by the label of the row, by the value that came
with it, and by whether it is a summary row; all three are those from before the run. The first
entry that has one counts, and a row that has a filter keeps it. The walk does not go into the
sub-table of a summary row, so the rows there keep what they have.
-/

namespace ReportSegments

namespace PassConfig

def clauseFor (escapeLabels : Bool) (key value : String) : String :=
  key ++ "==" ++ (if escapeLabels then Clause.escape value else value)

/--
The expression that an entry of the configuration has for a row.
-/
def filterFor? (escapeLabels : Bool) (segment : Option Segment) (isSummary : Bool) (label : String)
    (value : Option Json) : PassConfig → Option String
  | .segment [key] _ =>
    if isSummary = false ∧ label ≠ "" ∧ key ≠ "" then
      some (clauseFor escapeLabels key label)
    else
      none
  | .segment keys delimiter =>
    let parts := Text.splitOn delimiter label
    let used := (keys.zip parts).filter fun (key, _) => key ≠ ""
    if isSummary = false ∧ label ≠ "" ∧ 2 ≤ keys.length ∧ delimiter ≠ "" ∧
        parts.length = keys.length ∧ ∃ key ∈ keys, key ≠ "" then
      some (String.intercalate ";" (used.map fun (key, part) => clauseFor escapeLabels key part))
    else
      none
  | .labelMapping key mapping =>
    match key.or (segment.map Segment.key),
        (mapping.or (segment.bind Segment.valueOfLabel)).bind (·.find? label) with
    | some key, some stored =>
      if key ≠ "" ∧ stored ≠ "" then some (clauseFor escapeLabels key stored) else none
    | _, _ => none
  | .segmentValue =>
    match segment, value.bind Pass.valueText? with
    | some segment, some text =>
      if isSummary = false ∧ segment.key ≠ "" ∧ segment.hasCustomResolver = false then
        some (clauseFor true segment.key text)
      else
        none
    | _, _ => none
  | .presentationValue => none

end PassConfig

namespace Pass

theorem clause_eq_clauseFor (escaped : Bool) (key value : String) :
    clause escaped key value = PassConfig.clauseFor escaped key value := by
  cases escaped <;> rfl

theorem allBlank_clauseFor (escaped : Bool) (key value : String) :
    Text.allBlank (PassConfig.clauseFor escaped key value).toList = false := by
  have hoperator : Text.allBlank "==".toList = false := by decide
  have := Clause.allBlank_build key "==" (if escaped then Clause.escape value else value)
  rw [hoperator, Bool.and_false, Bool.false_and] at this
  exact this

theorem filter_zip_eq_nil_iff {keys parts : List String} (hlength : parts.length = keys.length) :
    ((keys.zip parts).filter fun used => used.1 ≠ "") = [] ↔ ¬∃ key ∈ keys, key ≠ "" := by
  have hkeys : (keys.zip parts).map Prod.fst = keys := by
    apply List.map_fst_zip
    omega
  rw [List.filter_eq_nil_iff]
  constructor
  . intro h ⟨key, hkey, hne⟩
    rw [← hkeys] at hkey
    obtain ⟨used, hused, rfl⟩ := List.mem_map.1 hkey
    exact h used hused (decide_eq_true hne)
  . intro h used hused hne
    apply h
    refine ⟨used.1, ?_, of_decide_eq_true hne⟩
    rw [← hkeys]
    exact List.mem_map_of_mem hused

theorem delimited?_eq (keys : List String) (delimiter : String) (escaped : Bool) (label : String) :
    delimited? keys delimiter escaped label =
      if (Text.splitOn delimiter label).length = keys.length ∧ ∃ key ∈ keys, key ≠ "" then
        some (String.intercalate ";"
          (((keys.zip (Text.splitOn delimiter label)).filter fun used => used.1 ≠ "").map
            fun used => PassConfig.clauseFor escaped used.1 used.2))
      else
        none := by
  unfold delimited?
  dsimp only
  generalize Text.splitOn delimiter label = parts
  split
  . next hlength =>
    have hused := filter_zip_eq_nil_iff hlength
    have hfilter : ((keys.zip parts).filter fun used => !used.1.isEmpty) =
        (keys.zip parts).filter fun used => used.1 ≠ "" := by
      apply List.filter_congr
      intro used hmem
      rw [Bool.eq_iff_iff]
      simp
    rw [hfilter]
    generalize ((keys.zip parts).filter fun used => used.1 ≠ "") = used at hused ⊢
    simp only [clause_eq_clauseFor, hlength, true_and]
    have hblank : ∀ clause ∈ used.map fun used => PassConfig.clauseFor escaped used.1 used.2,
        Text.allBlank clause.toList = false := by
      intro clause hclause
      obtain ⟨pair, -, rfl⟩ := List.mem_map.1 hclause
      apply allBlank_clauseFor
    rw [Clause.joinAnd_of_not_allBlank hblank]
    cases used with
    | nil =>
      rw [if_neg (hused.1 rfl)]
      rfl
    | cons first used =>
      have hkeys : ∃ key ∈ keys, key ≠ "" := by
        apply Decidable.byContradiction
        intro hno
        have := hused.2 hno
        contradiction
      rw [if_pos hkeys, Clause.isEmpty_intercalate (by simp) hblank]
      rfl
  . next hlength =>
    rw [if_neg]
    intro h
    exact hlength h.1

theorem write?_single (key : String) (escaped : Bool) (id : RowId) (row : Row) :
    (single key escaped).write? id row =
      if id.isSummary = false ∧ row.label ≠ "" ∧ key ≠ "" then
        some (PassConfig.clauseFor escaped key row.label)
      else
        none := by
  unfold write? single fault? derive?
  rw [← clause_eq_clauseFor]
  by_cases hkey : key = ""
  . simp [hkey]
  . by_cases hlabel : row.label = "" <;> cases id.isSummary <;> simp [hkey, hlabel]

theorem write?_byLabel {keys : List String} (hkeys : keys.length ≠ 1) (delimiter : String)
    (escaped : Bool) (id : RowId) (row : Row) :
    (byLabel keys delimiter escaped).write? id row =
      if id.isSummary = false ∧ row.label ≠ "" ∧ 2 ≤ keys.length ∧ delimiter ≠ "" then
        delimited? keys delimiter escaped row.label
      else
        none := by
  match keys with
  | [] => simp [write?, fault?]
  | [key] => contradiction
  | first :: second :: rest =>
    unfold write? fault? derive?
    by_cases hdelimiter : delimiter = ""
    . simp [hdelimiter]
    . by_cases hlabel : row.label = "" <;> cases id.isSummary <;> simp [hdelimiter, hlabel]

theorem write?_byMapping (key : String) (mapping : ValueTable) (escaped : Bool) (id : RowId)
    (row : Row) :
    (byMapping key mapping escaped).write? id row =
      (mapping.find? row.label).bind fun stored =>
        if key ≠ "" ∧ stored ≠ "" then
          some (PassConfig.clauseFor escaped key stored)
        else
          none := by
  unfold write? fault? derive?
  dsimp only
  cases mapping.find? row.label with
  | none => simp
  | some stored =>
    by_cases hkey : key = "" <;> by_cases hstored : stored = "" <;>
      simp [hkey, hstored, clause_eq_clauseFor, Option.filter]

theorem write?_segmentValue (segment : Option Segment) (id : RowId) (row : Row) :
    (segmentValue segment).write? id row =
      segment.bind fun segment =>
        ((row.metadata.get? Row.valueKey).bind valueText?).bind fun text =>
          if id.isSummary = false ∧ segment.key ≠ "" ∧ segment.hasCustomResolver = false then
            some (PassConfig.clauseFor true segment.key text)
          else
            none := by
  unfold write? segmentValue fault? derive?
  dsimp only
  cases segment with
  | none => cases id.isSummary <;> rfl
  | some segment =>
    cases (row.metadata.get? Row.valueKey).bind valueText? with
    | none => cases id.isSummary <;> simp
    | some text =>
      by_cases hkey : segment.key = "" <;> cases id.isSummary <;>
        cases hresolver : segment.hasCustomResolver <;>
        simp [hkey, hresolver, Option.filter, PassConfig.clauseFor, Clause.buildEscaped, Clause.build]

theorem bind_write?_pass? (escapeLabels : Bool) (segment : Option Segment) (entry : PassConfig)
    (id : RowId) (row : Row) :
    ((entry.pass? escapeLabels segment).bind fun pass => pass.write? id row) =
      entry.filterFor? escapeLabels segment id.isSummary row.label
        (row.metadata.get? Row.valueKey) := by
  cases entry with
  | segment keys delimiter =>
    match keys with
    | [key] =>
      simp only [PassConfig.pass?, PassConfig.filterFor?, Option.bind_some]
      rw [write?_single]
    | [] =>
      simp only [PassConfig.pass?, PassConfig.filterFor?, Option.bind_some]
      rw [write?_byLabel (by simp)]
      simp
    | first :: second :: rest =>
      simp only [PassConfig.pass?, PassConfig.filterFor?, Option.bind_some]
      rw [write?_byLabel (by simp), delimited?_eq]
      split <;> simp_all
  | labelMapping key mapping =>
    simp only [PassConfig.pass?, PassConfig.filterFor?, Option.bind_eq_bind, Option.orElse_eq_orElse,
      Option.orElse_eq_or]
    cases key.or (segment.map Segment.key) with
    | none => rfl
    | some key =>
      cases mapping.or (segment.bind Segment.valueOfLabel) with
      | none => rfl
      | some mapping =>
        simp only [Option.bind_some, Option.pure_def]
        rw [write?_byMapping]
        cases mapping.find? row.label with
        | none => rfl
        | some stored => rfl
  | segmentValue =>
    simp only [PassConfig.pass?, PassConfig.filterFor?, Option.bind_some]
    rw [write?_segmentValue]
    cases segment with
    | none => rfl
    | some segment =>
      cases (row.metadata.get? Row.valueKey).bind valueText? with
      | none => rfl
      | some text => rfl
  | presentationValue => rfl

end Pass

def Rows.filters (table : Table) : List (List RowId × Option Json) :=
  table.flatten.map fun (path, row) => (path, row.metadata.get? Row.filterKey)

namespace Config

/--
The filter that the configured entries leave a row: its own, or else that of the first entry that
has one for the row.
-/
def filterAfter (config : Config) (segment : Option Segment) (isSummary : Bool) (row : Row) :
    Option Json :=
  Json.keepOr (row.metadata.get? Row.filterKey)
    (config.pipeline.findSome? fun entry =>
      entry.filterFor? config.escapeLabels segment isSummary row.label
        (row.metadata.get? Row.valueKey))

theorem findSome?_write?_passes (config : Config) (segment : Option Segment) (id : RowId)
    (row : Row) :
    ((config.passes segment).findSome? fun pass => pass.write? id row) =
      config.pipeline.findSome? fun entry =>
        entry.filterFor? config.escapeLabels segment id.isSummary row.label
          (row.metadata.get? Row.valueKey) := by
  unfold passes
  induction config.pipeline with
  | nil => rfl
  | cons entry entries ih =>
    rw [List.findSome?_cons, ← Pass.bind_write?_pass?, ← ih, List.filterMap_cons]
    cases entry.pass? config.escapeLabels segment with
    | none => rfl
    | some pass => rw [Option.bind_some, List.findSome?_cons]

/--
After a run of the configured passes a row keeps its filter, or else has that of the first entry of
the configuration that has an expression for it. Rows below a summary row are left out.
-/
theorem filters_run (config : Config) (dimension : Option Dimension) (table : Table) :
    ((config.passes (Dimension.first? dimension)).run table).1.filters =
      table.flatten.map fun (path, row) =>
        (path,
          if Rows.isWalked path then
            config.filterAfter (Dimension.first? dimension) (path.getLast? = some .summary) row
          else
            row.metadata.get? Row.filterKey) := by
  unfold Rows.filters
  rw [Pipeline.fst_run, Rows.flatten_mapMetadata, List.map_map]
  apply List.map_congr_left
  intro ⟨path, row⟩ hentry
  have hpath : path ≠ [] := Rows.ne_nil_of_mem_flatten hentry
  generalize hlast : path.getLast hpath = id
  rw [← Option.some_inj, ← List.getLast?_eq_some_getLast hpath] at hlast
  simp only [Function.comp_apply, Prod.mk.injEq, true_and]
  rw [Rows.metadata_mapMetadataAt, hlast]
  cases Rows.isWalked path with
  | false => rfl
  | true =>
    dsimp only
    rw [Pipeline.get?_edit_filterKey, findSome?_write?_passes, if_pos rfl]
    have hsummary : id.isSummary = decide (some id = some RowId.summary) := by
      cases id <;> rfl
    rw [hsummary]
    rfl

theorem filters_run_ne_below_summary :
    ¬∀ (config : Config) (dimension : Option Dimension) (table : Table),
      ((config.passes (Dimension.first? dimension)).run table).1.filters =
        table.flatten.map fun (path, row) =>
          (path,
            config.filterAfter (Dimension.first? dimension) (path.getLast? = some .summary) row) := by
  intro h
  have hrows := h { pipeline := [.segment ["country"] ""] } none
    { summary := some { label := "Others", subtable := some (.ofLabels ["Peru"]) } }
  have htexts := congrArg (List.map fun entry => entry.2.bind Json.string?) hrows
  revert htexts
  decide

end Config
end ReportSegments
