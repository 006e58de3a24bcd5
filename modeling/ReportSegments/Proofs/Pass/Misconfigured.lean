import Mathlib.Data.List.Forall2
import ReportSegments.Proofs.Pass.Idempotent

/-!
This module contains what a pass that cannot be applied does to a run: it reports its error, and
that is all. Whether a pass can be applied does not depend on the table, so a run is the same
without the passes that cannot.
-/

namespace ReportSegments

namespace Pass

/--
The passes that cannot be applied, each with its error.
-/
inductive Misconfigured : Pass → ConfigurationError → Prop where
  | noSegments (delimiter : String) (escaped : Bool) :
    Misconfigured (byLabel [] delimiter escaped) .missingSegments
  | emptySegment (delimiter : String) (escaped : Bool) :
    Misconfigured (byLabel [""] delimiter escaped) .missingSegments
  | noDelimiter {segments : List String} (hsegments : 2 ≤ segments.length) (escaped : Bool) :
    Misconfigured (byLabel segments "" escaped) (.missingDelimiter segments)

theorem Misconfigured.fault?_eq {pass : Pass} {error : ConfigurationError}
    (h : pass.Misconfigured error) : pass.fault? = some error := by
  cases h with
  | noSegments delimiter escaped => rfl
  | emptySegment delimiter escaped => rfl
  | @noDelimiter segments hsegments escaped =>
    match segments with
    | first :: second :: rest => rfl

theorem misconfigured_of_fault? {pass : Pass} {error : ConfigurationError}
    (h : pass.fault? = some error) : pass.Misconfigured error := by
  unfold fault? at h
  split at h
  . next delimiter escaped =>
    obtain rfl := Option.some.inj h
    exact .noSegments delimiter escaped
  . next segment delimiter escaped =>
    split at h
    . next hempty =>
      obtain rfl := Option.some.inj h
      obtain rfl := String.isEmpty_iff.1 hempty
      exact .emptySegment delimiter escaped
    . contradiction
  . next segments delimiter escaped hnil hsingleton =>
    split at h
    . next hempty =>
      obtain rfl := Option.some.inj h
      obtain rfl := String.isEmpty_iff.1 hempty
      apply Misconfigured.noDelimiter
      match segments with
      | [] => exact absurd rfl hnil
      | [segment] => exact absurd rfl (hsingleton segment)
      | first :: second :: rest => simp
    . contradiction
  . contradiction

theorem fault?_eq_some_iff {pass : Pass} {error : ConfigurationError} :
    pass.fault? = some error ↔ pass.Misconfigured error :=
  ⟨misconfigured_of_fault?, Misconfigured.fault?_eq⟩

theorem fst_apply_eq_error_iff {pass : Pass} {table : Table} {error : ConfigurationError} :
    (pass.apply table).1 = .error error ↔ pass.Misconfigured error := by
  rw [← fault?_eq_some_iff, apply_eq]
  cases pass.fault? with
  | none => simp
  | some fault => simp

theorem isOk_fst_apply (pass : Pass) (table : Table) :
    (pass.apply table).1.isOk = pass.fault?.isNone := by
  rw [apply_eq]
  cases pass.fault? <;> rfl

theorem apply_of_fault? {pass : Pass} {error : ConfigurationError} (h : pass.fault? = some error)
    (table : Table) : pass.apply table = (.error error, table) := by
  rw [apply_eq, h, edit_of_fault? h, Rows.mapMetadata_metadata]

theorem run_of_fault? {pass : Pass} {error : ConfigurationError} (h : pass.fault? = some error)
    (table : Table) : pass.run table = (table, { pass := pass.name, error := some error }) := by
  unfold run
  rw [apply_of_fault? h]

end Pass

namespace Pipeline

theorem forall₂_snd_run {r : Pass → PassReport → Prop}
    (h : ∀ pass table, r pass (Pass.run pass table).2) (passes : Pipeline) (table : Table) :
    List.Forall₂ r passes (run passes table).2 := by
  induction passes generalizing table with
  | nil => exact .nil
  | cons pass passes ih =>
    rw [snd_run_cons]
    exact .cons (h pass table) (ih (pass.run table).1)

/--
The passes that can be applied do the same, and report the same, without those that cannot.
-/
theorem run_filter_fault? (passes : Pipeline) (table : Table) :
    run (passes.filter (·.fault?.isNone)) table =
      ((run passes table).1, (run passes table).2.filter (·.error.isNone)) := by
  induction passes generalizing table with
  | nil => rfl
  | cons pass passes ih =>
    have hrun (passes : Pipeline) : run (pass :: passes) table =
        ((run passes (pass.run table).1).1,
          (pass.run table).2 :: (run passes (pass.run table).1).2) := rfl
    have herror : (pass.run table).2.error = pass.fault? := by
      rw [Pass.snd_run]
    rw [hrun, List.filter_cons, List.filter_cons, herror]
    cases hfault : pass.fault? with
    | none =>
      dsimp only [Option.isNone_none]
      rw [if_pos rfl, if_pos rfl, hrun, ih]
    | some error =>
      dsimp only [Option.isNone_some]
      rw [if_neg Bool.false_ne_true, if_neg Bool.false_ne_true, ih, Pass.run_of_fault? hfault]

/--
A pass that cannot be applied leaves the table as it is, whatever the table holds, and has its error
in its report. The passes that can be applied run as if they were alone.
-/
theorem run_misconfigured (passes : Pipeline) (table : Table) :
    (∀ pass error, (Pass.apply pass table).1 = .error error ↔ pass.Misconfigured error) ∧
    (∀ pass error, Pass.Misconfigured pass error →
      pass.apply table = (.error error, table) ∧
        pass.run table = (table, { pass := pass.name, annotated := 0, error := some error })) ∧
    List.Forall₂
      (fun pass report =>
        report.pass = pass.name ∧
        (∀ error, report.error = some error ↔ pass.Misconfigured error) ∧
        (report.error ≠ none → report.annotated = 0))
      passes (run passes table).2 ∧
    run (passes.filter fun pass => (pass.apply table).1.isOk) table =
      ((run passes table).1, (run passes table).2.filter (·.error.isNone)) := by
  refine ⟨?_, ?_, ?_, ?_⟩
  . intro pass error
    exact Pass.fst_apply_eq_error_iff
  . intro pass error h
    exact ⟨Pass.apply_of_fault? h.fault?_eq table, Pass.run_of_fault? h.fault?_eq table⟩
  . apply forall₂_snd_run
    intro pass table
    rw [Pass.snd_run]
    refine ⟨rfl, fun error => Pass.fault?_eq_some_iff, ?_⟩
    intro herror
    exact if_pos (Option.isSome_iff_ne_none.2 herror)
  . simp only [Pass.isOk_fst_apply]
    exact run_filter_fault? passes table

end Pipeline
end ReportSegments
