import ReportSegments.Program.Source

/-!
This module contains when the steps of a run succeed one after the other.
-/

namespace ReportSegments

section Bind

variable {ε α β : Type} {x : Except ε α} {f : α → Except ε β}

theorem bind_eq_ok_iff {b : β} : (x >>= f) = .ok b ↔ ∃ a, x = .ok a ∧ f a = .ok b := by
  cases x with
  | error e => exact iff_of_false nofun nofun
  | ok a =>
    constructor
    . intro h
      exact ⟨a, rfl, h⟩
    . rintro ⟨a', ha, h⟩
      obtain rfl := Except.ok.inj ha
      exact h

theorem pure_eq_ok_iff {a b : α} : (pure a : Except ε α) = .ok b ↔ b = a := by
  simp [pure, Except.pure, eq_comm]

theorem exists_bind_eq_ok_iff :
    (∃ b, (x >>= f) = .ok b) ↔ ∃ a, x = .ok a ∧ ∃ b, f a = .ok b := by
  simp only [bind_eq_ok_iff]
  rw [exists_comm]
  simp only [exists_and_left]

end Bind

theorem require_eq_ok_iff {value : Option α} {error : RunError} {a : α} :
    require value error = .ok a ↔ value = some a := by
  cases value with
  | none => exact iff_of_false nofun nofun
  | some b => simp [require]

section Reads

variable {read? other? : String → Option ByteArray}

theorem loadReport_congr {path : String} (h : read? path = other? path) :
    loadReport read? path = loadReport other? path := by
  simp only [loadReport, readText?, h]

theorem loadConfig_congr {path? : Option String}
    (h : ∀ path, path? = some path → read? path = other? path) :
    loadConfig read? path? = loadConfig other? path? := by
  cases path? with
  | none => rfl
  | some path => simp only [loadConfig, readText?, h path rfl]

theorem loadRegistry_congr {config : Config} {report : Option String}
    (h : ∀ path, report = some path → read? path = other? path) :
    loadRegistry read? config report = loadRegistry other? config report := by
  cases report with
  | none => rfl
  | some path => simp only [loadRegistry, loadReport_congr (h path rfl)]

end Reads

theorem exists_loadRegistry_eq_ok_iff {read? : String → Option ByteArray} {config : Config}
    {report : Option String} :
    (∃ registry, loadRegistry read? config report = .ok registry) ↔
      ∀ path, report = some path → ∃ document, loadReport read? path = .ok document := by
  cases report with
  | none => exact iff_of_true ⟨_, rfl⟩ nofun
  | some path =>
    simp only [loadRegistry, exists_bind_eq_ok_iff, Option.some.injEq, forall_eq']
    apply exists_congr
    intro document
    exact and_iff_left ⟨_, rfl⟩

end ReportSegments
