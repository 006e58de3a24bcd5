import ReportSegments.Proofs.Expression.Clause
import ReportSegments.Proofs.Expression.Condition
import ReportSegments.Proofs.Text.Joined
import ReportSegments.Proofs.Text.Pieces

/-!
This module contains that writing conditions as one expression and reading that expression gives the
conditions back, just if none of their values is lost in its own clause.
-/

namespace ReportSegments
namespace Expression

open Text (pieces trim trimEnd trimLast allBlank)
open Condition (IsKey clause)

theorem mapM_eq_ok_iff {α β ε : Type} {f : α → Except ε β} {g : α → β} {xs : List α} :
    xs.mapM f = .ok (xs.map g) ↔ ∀ x ∈ xs, f x = .ok (g x) := by
  induction xs with
  | nil => simp [pure, Except.pure]
  | cons x xs ih =>
    rw [List.mapM_cons, List.forall_mem_cons, ← ih, List.map_cons]
    cases hx : f x with
    | error e => simp [bind, Except.bind]
    | ok y =>
      cases xs.mapM f with
      | error e => simp [bind, Except.bind]
      | ok ys => simp [bind, Except.bind, pure, Except.pure]

theorem not_mem_clause {sep : Char} (hsep : sep = ',' ∨ sep = ';') {c : Condition}
    (hkey : IsKey c.key) : sep ∉ c.clause.toList := by
  have hsepKey : sep ∉ c.key.toList := by
    intro hmem
    have := hkey.2 sep hmem
    revert this
    rcases hsep with rfl | rfl <;> decide
  have hsepOperator : sep ∉ c.operator.chars := by
    rcases hsep with rfl | rfl <;> cases c.operator <;> decide
  rw [Condition.toList_clause]
  simp only [List.mem_append, not_or]
  refine ⟨⟨hsepKey, hsepOperator⟩, Clause.not_mem_escape ?_ c.value⟩
  rcases hsep with rfl | rfl <;> decide

theorem exists_clause_eq_cons {c : Condition} (hkey : IsKey c.key) :
    ∃ first rest, c.clause.toList = first :: rest ∧ Text.isBlank first = false := by
  obtain ⟨hne, hchars⟩ := hkey
  rw [Condition.toList_clause]
  cases hlist : c.key.toList with
  | nil => exact absurd (String.toList_eq_nil_iff.1 hlist) hne
  | cons first rest =>
    rw [hlist] at hchars
    exact ⟨first, _, rfl, Condition.isBlank_of_isKeyChar (hchars first (List.mem_cons_self ..))⟩

theorem allBlank_clause {c : Condition} (hkey : IsKey c.key) :
    allBlank c.clause.toList = false := by
  obtain ⟨first, rest, hclause, hfirst⟩ := exists_clause_eq_cons hkey
  rw [hclause, allBlank, List.all_cons, hfirst, Bool.false_and]

variable {conditions : List Condition}

theorem trim_joinAnd (hne : conditions ≠ []) (hkeys : ∀ c ∈ conditions, IsKey c.key) :
    trim (Clause.joinAnd (conditions.map clause)).toList =
      [';'].intercalate (trimLast (conditions.map (·.clause.toList))) := by
  have hblank : ∀ part ∈ conditions.map (·.clause.toList), allBlank part = false := by
    rw [List.forall_mem_map]
    exact fun c hc => allBlank_clause (hkeys c hc)
  have hjoin : (Clause.joinAnd (conditions.map clause)).toList =
      [';'].intercalate (conditions.map (·.clause.toList)) := by
    rw [Clause.joinAnd_of_not_allBlank, String.toList_intercalate, List.map_map]
    . rfl
    . rw [List.forall_mem_map]
      exact fun c hc => allBlank_clause (hkeys c hc)
  rw [hjoin, trim, ← Text.trimEnd_intercalate hblank]
  cases conditions with
  | nil => contradiction
  | cons c conditions =>
    obtain ⟨first, rest, hclause, hfirst⟩ := exists_clause_eq_cons (hkeys c (List.mem_cons_self ..))
    rw [List.map_cons, hclause, Text.trimStart_intercalate hfirst]

theorem parse_joinAnd (hne : conditions ≠ []) (hkeys : ∀ c ∈ conditions, IsKey c.key) :
    parse (Clause.joinAnd (conditions.map clause)) =
      conditions.mapM fun c => (pieces [','] c.clause.toList).mapM Condition.parse := by
  have hparts : conditions.map (·.clause.toList) ≠ [] := by
    rw [ne_eq, List.map_eq_nil_iff]
    exact hne
  have htrim := trim_joinAnd hne hkeys
  -- The last clause may have lost blanks, but it is still a clause that is not blank.
  have hgroups : ∀ part ∈ trimLast (conditions.map (·.clause.toList)),
      ';' ∉ part ∧ allBlank part = false := by
    apply Text.forall_mem_trimLast
    . intro part ⟨hsep, hblank⟩
      rw [Text.allBlank_trimEnd]
      exact ⟨fun hmem => hsep (Text.mem_of_mem_trimEnd hmem), hblank⟩
    . rw [List.forall_mem_map]
      exact fun c hc => ⟨not_mem_clause (.inr rfl) (hkeys c hc), allBlank_clause (hkeys c hc)⟩
  have hpieces : pieces [';'] (trim (Clause.joinAnd (conditions.map clause)).toList) =
      trimLast (conditions.map (·.clause.toList)) := by
    rw [htrim]
    apply Text.pieces_intercalate (Text.trimLast_ne_nil hparts)
    exact fun part hpart => (hgroups part hpart).1
  have hfilter : (trimLast (conditions.map (·.clause.toList))).filter (fun part => !allBlank part) =
      trimLast (conditions.map (·.clause.toList)) := by
    rw [List.filter_eq_self]
    intro part hpart
    rw [(hgroups part hpart).2]
    rfl
  unfold parse
  split
  . next hnil =>
    rw [hnil, Text.pieces_of_not_mem List.not_mem_nil] at hpieces
    rw [← hpieces, List.forall_mem_singleton] at hgroups
    have := hgroups.2
    contradiction
  . rw [hpieces, hfilter, Text.mapM_trimLast, List.mapM_map]
    . rfl
    . rw [List.forall_mem_map]
      intro c hc
      have hsep := not_mem_clause (.inl rfl) (hkeys c hc)
      have hsepEnd : ',' ∉ trimEnd c.clause.toList := fun hmem => hsep (Text.mem_of_mem_trimEnd hmem)
      rw [Text.pieces_of_not_mem hsep, Text.pieces_of_not_mem hsepEnd, List.mapM_cons,
        List.mapM_cons, Condition.parse_trimEnd_clause (hkeys c hc)]

/--
An expression that is written for conditions on one line each is read as one group for each of them,
with the value that is left of the escaped one.
-/
theorem parse_joinAnd_of_oneLine (hne : conditions ≠ []) (hkeys : ∀ c ∈ conditions, IsKey c.key)
    (hclosed : ∀ c ∈ conditions, c.operator.isOpen = false)
    (hline : ∀ c ∈ conditions, '\n' ∉ c.value.toList) :
    parse (Clause.joinAnd (conditions.map clause)) =
      .ok (conditions.map fun c =>
        [{ c with
          value := Percent.decode (String.ofList (trimEnd (Clause.escape c.value).toList)) }]) := by
  rw [parse_joinAnd hne hkeys, mapM_eq_ok_iff]
  intro c hc
  rw [Text.pieces_of_not_mem (not_mem_clause (.inl rfl) (hkeys c hc)), List.mapM_cons,
    Condition.parse_clause (hkeys c hc) (hclosed c hc) (hline c hc)]
  rfl

/--
An expression that is written for conditions, one to a group, is read back as these conditions just
if each of them can be read back.
-/
theorem parse_joinAnd_iff (hne : conditions ≠ []) (hkeys : ∀ c ∈ conditions, IsKey c.key) :
    parse (Clause.joinAnd (conditions.map clause)) = .ok (conditions.map fun c => [c]) ↔
      ∀ c ∈ conditions, c.IsWritable := by
  rw [parse_joinAnd hne hkeys, mapM_eq_ok_iff]
  apply forall₂_congr
  intro c hc
  have hsep := not_mem_clause (.inl rfl) (hkeys c hc)
  rw [← Condition.parse_clause_iff (hkeys c hc), Text.pieces_of_not_mem hsep]
  exact (mapM_eq_ok_iff (g := fun _ => c)).trans List.forall_mem_singleton

theorem parse_joinAnd_reserved :
    let conditions := [⟨"city", .equals, "a, b; c & 5%"⟩, ⟨"visits.x-y", .less, " 2=2"⟩]
    conditions ≠ [] ∧ (∀ c ∈ conditions, IsKey c.key) ∧ (∀ c ∈ conditions, c.IsWritable) ∧
      parse (Clause.joinAnd (conditions.map clause)) = .ok (conditions.map fun c => [c]) := by
  refine ⟨by decide, by decide, by decide, ?_⟩
  apply (parse_joinAnd_iff _ _).2 <;> decide

end Expression
end ReportSegments
