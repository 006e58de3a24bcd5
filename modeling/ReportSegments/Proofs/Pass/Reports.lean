import ReportSegments.Proofs.Pass.Idempotent

/-!
This module contains what a pass reports about a table. A filter pass counts the rows of the walk
without a filter for which it has an expression, a presentation pass counts all rows of the walk.
-/

namespace ReportSegments

theorem Fields.has_eq (fields : Fields) (name : String) :
    fields.has name = !(fields.get? name).all Json.isNull := by
  unfold has
  cases fields.get? name <;> rfl

theorem Fields.isSome_setIfAbsent? (fields : Fields) (name : String) (value : Json) :
    (fields.setIfAbsent? name value).isSome = (fields.get? name).all Json.isNull := by
  unfold setIfAbsent?
  rw [has_eq]
  cases (fields.get? name).all Json.isNull <;> rfl

namespace Pass

/--
Whether a pass writes raw values and not filters.
-/
def isPresentation : Pass → Bool
  | presentation _ => true
  | _ => false

theorem exists_eq_presentation {pass : Pass} (h : pass.isPresentation = true) :
    ∃ source, pass = presentation source := by
  cases pass with
  | presentation source => exact ⟨source, rfl⟩
  | _ => contradiction

theorem presented?_of_isPresentation {pass : Pass} (h : pass.isPresentation = false) :
    pass.presented? = none := by
  cases pass with
  | presentation source => contradiction
  | _ => rfl

theorem write?_of_isPresentation {pass : Pass} (h : pass.isPresentation = true) (id : RowId)
    (row : Row) : pass.write? id row = none := by
  obtain ⟨source, rfl⟩ := exists_eq_presentation h
  rfl

theorem isSome_edit? {pass : Pass} (h : pass.isPresentation = false) (id : RowId) (row : Row) :
    (pass.edit? id row).isSome =
      ((row.metadata.get? Row.filterKey).all Json.isNull && (pass.derive? id row).isSome) := by
  unfold edit?
  split
  . contradiction
  . cases pass.derive? id row with
    | none => rw [Option.bind_none, Option.isSome_none, Option.isSome_none, Bool.and_false]
    | some filter =>
      rw [Option.bind_some, Fields.isSome_setIfAbsent?, Option.isSome_some, Bool.and_true]

/--
Whether a row without a filter gets one from a pass.
-/
def fills (pass : Pass) (entry : RowId × Row) : Bool :=
  (entry.2.metadata.get? Row.filterKey).all Json.isNull && (pass.write? entry.1 entry.2).isSome

theorem countP_fills {pass : Pass} (h : pass.isPresentation = true) (entries : List (RowId × Row)) :
    entries.countP pass.fills = 0 := by
  rw [List.countP_eq_zero]
  intro entry hentry
  rw [fills, write?_of_isPresentation h]
  simp

theorem snd_run_of_filter {pass : Pass} (h : pass.isPresentation = false) (table : Table) :
    (pass.run table).2 = {
      pass := pass.name
      annotated := table.walkedRows.countP pass.fills
      error := pass.fault? } := by
  rw [snd_run]
  congr 1
  split
  . next hfault =>
    obtain ⟨error, hfault⟩ := Option.isSome_iff_exists.1 hfault
    symm
    rw [List.countP_eq_zero]
    intro entry hentry
    simp [fills, write?, hfault]
  . next hfault =>
    rw [Bool.not_eq_true, Option.isSome_eq_false_iff, Option.isNone_iff_eq_none] at hfault
    apply List.countP_congr
    intro entry hentry
    rw [Rows.receives, isSome_edit? h, fills, write?, hfault]

theorem snd_run_presentation (source : Option LabelSource) (table : Table) :
    ((presentation source).run table).2 = {
      pass := (presentation source).name
      annotated := if source.isSome then table.walkedRows.length else 0 } :=
  again_run (presentation source) table

theorem length_walkedRows_run (pass : Pass) (table : Table) :
    (pass.run table).1.walkedRows.length = table.walkedRows.length := by
  rw [fst_run, Rows.length_walkedRows_mapMetadata]

end Pass

namespace Pipeline

/--
What a run reports about the passes of one kind.
-/
def reportsOf (kind : Pass → Bool) (passes : Pipeline) (table : Table) : List PassReport :=
  ((passes.zip (run passes table).2).filter fun entry => kind entry.1).map Prod.snd

theorem reportsOf_cons (kind : Pass → Bool) (pass : Pass) (passes : Pipeline) (table : Table) :
    reportsOf kind (pass :: passes) table =
      if kind pass then
        (pass.run table).2 :: reportsOf kind passes (pass.run table).1
      else
        reportsOf kind passes (pass.run table).1 := by
  unfold reportsOf
  rw [snd_run_cons, List.zip_cons_cons, List.filter_cons]
  cases kind pass <;> rfl

theorem total_reportsOf_add (kind : Pass → Bool) (passes : Pipeline) (table : Table) :
    total (reportsOf kind passes table) + total (reportsOf (!kind ·) passes table) =
      total (run passes table).2 := by
  induction passes generalizing table with
  | nil => rfl
  | cons pass passes ih =>
    have ih := ih (pass.run table).1
    rw [reportsOf_cons, reportsOf_cons, snd_run_cons]
    cases kind pass with
    | true =>
      rw [if_pos rfl, if_neg (by decide), total, total]
      omega
    | false =>
      rw [if_neg (by decide), if_pos (by decide), total, total]
      omega

end Pipeline
end ReportSegments
