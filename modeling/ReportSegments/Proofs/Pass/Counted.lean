import Mathlib.Data.List.Forall2
import ReportSegments.Proofs.Config.FirstEntry
import ReportSegments.Proofs.Pass.Reports
import ReportSegments.Proofs.Report.Bare
import ReportSegments.Proofs.Report.Reached

/-!
This module contains that the counts of a run are exact: a filter pass counts the rows that have no
filter before it and have one behind it, and over the run each row with a new filter is counted by
one pass.
-/

namespace ReportSegments

namespace Json

def isString (value : Json) : Bool :=
  value.string?.isSome

/--
Whether an entry was absent or `null` and now has a value that is accepted.
-/
def isNew (accepts : Json → Bool) (old new : Option Json) : Bool :=
  old.all isNull && new.any accepts

theorem isNew_keepOr (old : Option Json) (found : Option String) :
    isNew isString old (keepOr old found) = (old.all isNull && found.isSome) := by
  cases found with
  | none =>
    rw [keepOr_none]
    cases old with
    | none => rfl
    | some value => cases value <;> rfl
  | some s =>
    cases old with
    | none => rfl
    | some value => cases value <;> rfl

theorem isNew_keepOr_keepOr (old : Option Json) (first second : Option String) :
    let middle := keepOr old first
    let last := keepOr middle second
    (isNew isString old middle && isNew (!·.isNull) old last) = isNew isString old middle ∧
      (!isNew isString old middle && isNew (!·.isNull) old last) =
        isNew (!·.isNull) middle last := by
  cases old with
  | none => cases first <;> cases second <;> exact ⟨rfl, rfl⟩
  | some value =>
    cases value <;> cases first <;> cases second <;> exact ⟨rfl, rfl⟩

end Json

/--
The paths of the rows of a whole table that had no filter before and have an accepted one now.
-/
def Rows.newFilters (accepts : Json → Bool) (before after : Table) : List (List RowId) :=
  ((before.filters.zip after.filters).filter fun (old, new) =>
    Json.isNew accepts old.2 new.2).map fun (old, _) => old.1

namespace Pipeline

/--
The filter that passes leave at a path.
-/
def filterAt (passes : Pipeline) (entry : List RowId × Row) : Option Json :=
  (Rows.mapMetadataAt (edit passes) entry.1 entry.2).metadata.get? Row.filterKey

theorem filters_eq_map (passes : Pipeline) (table : Table) :
    (run passes table).1.filters =
      table.flatten.map fun entry => (entry.1, filterAt passes entry) := by
  unfold Rows.filters
  rw [fst_run, Rows.flatten_mapMetadata, List.map_map]
  rfl

theorem newFilters_run (accepts : Json → Bool) (first second : Pipeline) (table : Table) :
    Rows.newFilters accepts (run first table).1 (run second table).1 =
      (table.flatten.filter fun entry =>
        Json.isNew accepts (filterAt first entry) (filterAt second entry)).map Prod.fst := by
  unfold Rows.newFilters
  rw [filters_eq_map, filters_eq_map, List.zip_map', List.filter_map, List.map_map]
  rfl

/--
The expression that passes have for the row at a path, if the walk comes to it.
-/
def writeAt? (passes : Pipeline) (entry : List RowId × Row) : Option String :=
  (Rows.reached? entry).bind fun reached =>
    passes.findSome? fun pass => pass.write? reached.1 reached.2

theorem filterAt_eq (passes : Pipeline) (entry : List RowId × Row) :
    filterAt passes entry =
      Json.keepOr (entry.2.metadata.get? Row.filterKey) (writeAt? passes entry) := by
  unfold filterAt writeAt? Rows.reached?
  rw [Rows.metadata_mapMetadataAt]
  cases Rows.isWalked entry.1 with
  | false =>
    dsimp only
    rw [if_neg Bool.false_ne_true, Option.bind_none, Json.keepOr_none]
  | true =>
    rw [if_pos rfl]
    cases entry.1.getLast? with
    | none =>
      dsimp only
      rw [Option.map_none, Option.bind_none, Json.keepOr_none]
    | some id =>
      dsimp only
      rw [get?_edit_filterKey, Option.map_some, Option.bind_some]

theorem filterAt_nil (entry : List RowId × Row) :
    filterAt [] entry = entry.2.metadata.get? Row.filterKey := by
  rw [filterAt_eq, writeAt?]
  cases Rows.reached? entry with
  | none => rw [Option.bind_none, Json.keepOr_none]
  | some reached => rw [Option.bind_some, List.findSome?_nil, Json.keepOr_none]

theorem writeAt?_append (first second : Pipeline) (entry : List RowId × Row) :
    writeAt? (first ++ second) entry = (writeAt? first entry).or (writeAt? second entry) := by
  unfold writeAt?
  cases Rows.reached? entry with
  | none => rfl
  | some reached => exact List.findSome?_append

theorem filterAt_append (first second : Pipeline) (entry : List RowId × Row) :
    filterAt (first ++ second) entry =
      Json.keepOr (filterAt first entry) (writeAt? second entry) := by
  rw [filterAt_eq, filterAt_eq, writeAt?_append, Json.keepOr_keepOr]

theorem newFilters_start (accepts : Json → Bool) (passes : Pipeline) (table : Table) :
    table.newFilters accepts (run passes table).1 =
      (table.flatten.filter fun entry =>
        Json.isNew accepts (entry.2.metadata.get? Row.filterKey) (filterAt passes entry)).map
          Prod.fst := by
  have hstart := newFilters_run accepts [] passes table
  simp only [filterAt_nil] at hstart
  exact hstart

/--
The rows that get a filter from the first passes and those that get one from the others are the rows
that get one from all passes.
-/
theorem newFilters_perm (first second : Pipeline) (table : Table) :
    (table.newFilters Json.isString (run first table).1 ++
        (run first table).1.newFilters (!·.isNull) (run (first ++ second) table).1).Perm
      (table.newFilters (!·.isNull) (run (first ++ second) table).1) := by
  rw [newFilters_start, newFilters_start, newFilters_run, ← List.map_append]
  apply List.Perm.map
  have hsplit (entry : List RowId × Row) :=
    Json.isNew_keepOr_keepOr (entry.2.metadata.get? Row.filterKey) (writeAt? first entry)
      (writeAt? second entry)
  simp only [← filterAt_eq, ← filterAt_append] at hsplit
  -- What is new in the end is parted by whether it is new behind the first passes.
  have hperm := List.filter_append_perm
    (fun entry =>
      Json.isNew Json.isString (entry.2.metadata.get? Row.filterKey) (filterAt first entry))
    (table.flatten.filter fun entry =>
      Json.isNew (!·.isNull) (entry.2.metadata.get? Row.filterKey)
        (filterAt (first ++ second) entry))
  rw [List.filter_filter, List.filter_filter] at hperm
  simp only [hsplit] at hperm
  exact hperm

theorem newFilters_self (table : Table) : table.newFilters (!·.isNull) table = [] := by
  have hnew : table.newFilters (!·.isNull) table = _ := newFilters_start (!·.isNull) [] table
  rw [hnew, List.map_eq_nil_iff, List.filter_eq_nil_iff]
  intro entry hentry
  rw [filterAt_nil, Json.isNew]
  cases entry.2.metadata.get? Row.filterKey with
  | none => decide
  | some value => cases value <;> simp [Json.isNull]

end Pipeline

namespace Pass

theorem length_newFilters (pass : Pass) (table : Table) :
    (table.newFilters Json.isString (pass.run table).1).length =
      table.walkedRows.countP pass.fills := by
  have hnew : table.newFilters Json.isString (pass.run table).1 = _ :=
    Pipeline.newFilters_start Json.isString [pass] table
  rw [hnew, List.length_map, ← List.countP_eq_length_filter, Rows.countP_walkedRows]
  apply List.countP_congr
  intro entry hentry
  rw [Pipeline.filterAt_eq, Json.isNew_keepOr, Pipeline.writeAt?]
  cases hreached : Rows.reached? entry with
  | none => rw [Option.bind_none, Option.isSome_none, Bool.and_false, Option.any_none]
  | some reached =>
    rcases reached with ⟨id, row⟩
    obtain rfl := Rows.eq_of_reached? hreached
    rw [Option.bind_some, Option.any_some, List.findSome?_singleton, fills]

end Pass

namespace Pipeline

/--
A pass of a run, with the table before it and the table behind it.
-/
structure Stage where
  pass : Pass
  before : Table
  after : Table

/--
The passes of a run with the tables that they come to and leave.
-/
def stages : Pipeline → Table → List Stage
  | [], _ => []
  | pass :: passes, table =>
    let next := (pass.run table).1
    ⟨pass, table, next⟩ :: stages passes next

/--
The rows that get a filter at a stage.
-/
def Stage.newFilters (stage : Stage) : List (List RowId) :=
  stage.before.newFilters Json.isString stage.after

/--
The rows that get a filter from the filter passes of a run.
-/
def stageFilters (passes : Pipeline) (table : Table) : List (List RowId) :=
  ((stages passes table).filter (!·.pass.isPresentation)).flatMap Stage.newFilters

theorem stageFilters_cons (pass : Pass) (passes : Pipeline) (table : Table) :
    stageFilters (pass :: passes) table =
      table.newFilters Json.isString (pass.run table).1 ++
        stageFilters passes (pass.run table).1 := by
  unfold stageFilters
  rw [stages, List.filter_cons]
  cases hkind : pass.isPresentation with
  | false =>
    rw [if_pos (by simp), List.flatMap_cons]
    rfl
  | true =>
    -- A presentation pass fills no row, so its stage may be left out.
    have hnil : table.newFilters Json.isString (pass.run table).1 = [] := by
      rw [← List.length_eq_zero_iff, Pass.length_newFilters, Pass.countP_fills hkind]
    rw [if_neg (by simp), hnil, List.nil_append]

theorem stageFilters_perm (passes : Pipeline) (table : Table) :
    (stageFilters passes table).Perm (table.newFilters (!·.isNull) (run passes table).1) := by
  induction passes generalizing table with
  | nil =>
    have hnil : table.newFilters (!·.isNull) (run [] table).1 = [] := newFilters_self table
    rw [hnil]
    exact .refl _
  | cons pass passes ih =>
    rw [stageFilters_cons]
    exact ((ih (pass.run table).1).append_left _).trans (newFilters_perm [pass] passes table)

theorem total_reportsOf_filters (passes : Pipeline) (table : Table) :
    total (reportsOf (!·.isPresentation) passes table) = (stageFilters passes table).length := by
  induction passes generalizing table with
  | nil => rfl
  | cons pass passes ih =>
    rw [reportsOf_cons, stageFilters_cons, List.length_append, Pass.length_newFilters, ← ih]
    cases hkind : pass.isPresentation with
    | false =>
      rw [if_pos (by simp), total, Pass.snd_run_of_filter hkind]
    | true =>
      rw [if_neg (by simp), Pass.countP_fills hkind, Nat.zero_add]

/--
What a pass is to count: the rows that get a filter from it, or all rows of the walk.
-/
def Stage.count (walked : Nat) (stage : Stage) : Nat :=
  match stage.pass with
  | .presentation source => if source.isSome then walked else 0
  | _ => stage.newFilters.length

theorem annotated_eq_count (pass : Pass) (table : Table) :
    (pass.run table).2.annotated =
      Stage.count table.walkedRows.length ⟨pass, table, (pass.run table).1⟩ := by
  cases hkind : pass.isPresentation with
  | false =>
    rw [Pass.snd_run_of_filter hkind, ← Pass.length_newFilters]
    cases pass with
    | presentation source => contradiction
    | _ => rfl
  | true =>
    obtain ⟨source, rfl⟩ := Pass.exists_eq_presentation hkind
    rw [Pass.snd_run_presentation, Stage.count]

theorem forall₂_stages_count (passes : Pipeline) (table : Table) :
    List.Forall₂ (fun stage report => report.annotated = stage.count table.walkedRows.length)
      (stages passes table) (run passes table).2 := by
  induction passes generalizing table with
  | nil => exact .nil
  | cons pass passes ih =>
    have hrest := ih (pass.run table).1
    rw [Pass.length_walkedRows_run] at hrest
    exact .cons (annotated_eq_count pass table) hrest

theorem paths_run (passes : Pipeline) (table : Table) :
    (run passes table).1.flatten.map Prod.fst = table.flatten.map Prod.fst := by
  rw [fst_run, Rows.flatten_mapMetadata, List.map_map]
  rfl

theorem paths_stages (passes : Pipeline) (table : Table) :
    ∀ stage ∈ stages passes table,
      stage.before.flatten.map Prod.fst = table.flatten.map Prod.fst ∧
        stage.after.flatten.map Prod.fst = table.flatten.map Prod.fst := by
  induction passes generalizing table with
  | nil => exact List.forall_mem_nil _
  | cons pass passes ih =>
    have hnext : (pass.run table).1.flatten.map Prod.fst = table.flatten.map Prod.fst :=
      paths_run [pass] table
    have hrest := ih (pass.run table).1
    rw [hnext] at hrest
    rw [stages, List.forall_mem_cons]
    exact ⟨⟨rfl, hnext⟩, hrest⟩

/--
A filter pass counts the rows of the whole table that it gives a filter, and an active presentation
pass the rows at paths without a summary row before their end. Each row with a new filter is counted
by one filter pass.
-/
theorem counted_run (passes : Pipeline) (table : Table) :
    let result := run passes table
    let walked := table.flatten.countP fun entry => RowId.summary ∉ entry.1.dropLast
    let new := table.newFilters (!·.isNull) result.1
    (∀ stage ∈ stages passes table,
      stage.before.flatten.map Prod.fst = table.flatten.map Prod.fst ∧
        stage.after.flatten.map Prod.fst = table.flatten.map Prod.fst) ∧
    List.Forall₂ (fun stage report => report.annotated = stage.count walked)
      (stages passes table) result.2 ∧
    (((stages passes table).filter (!·.pass.isPresentation)).flatMap Stage.newFilters).Perm new ∧
    total (reportsOf (!·.isPresentation) passes table) = new.length ∧
    total result.2 =
      total (reportsOf (!·.isPresentation) passes table) +
        total (reportsOf Pass.isPresentation passes table) := by
  have hwalked : (table.flatten.countP fun entry => RowId.summary ∉ entry.1.dropLast) =
      table.walkedRows.length := by
    rw [Rows.length_walkedRows]
    apply List.countP_congr
    intro entry hentry
    rw [decide_eq_true_iff, ← Rows.isWalked_eq_false_iff, Bool.not_eq_false]
  dsimp only
  rw [hwalked]
  refine ⟨paths_stages passes table, forall₂_stages_count passes table,
    stageFilters_perm passes table, ?_, ?_⟩
  . rw [total_reportsOf_filters]
    exact (stageFilters_perm passes table).length_eq
  . rw [Nat.add_comm]
    exact (total_reportsOf_add Pass.isPresentation passes table).symm

end Pipeline
end ReportSegments
