import ReportSegments.Expression.Clause

/-!
This module contains when a clause is not blank, and the conjunction of clauses that are not.
-/

namespace ReportSegments
namespace Clause

theorem allBlank_build (key operator value : String) :
    Text.allBlank (build key operator value).toList =
      (Text.allBlank key.toList && Text.allBlank operator.toList &&
        Text.allBlank value.toList) := by
  unfold Text.allBlank build
  rw [String.toList_append, String.toList_append, List.all_append, List.all_append]

theorem joinAnd_of_not_allBlank {clauses : List String}
    (h : ∀ clause ∈ clauses, Text.allBlank clause.toList = false) :
    joinAnd clauses = String.intercalate ";" clauses := by
  have hfilter : (clauses.filter fun clause => !Text.allBlank clause.toList) = clauses := by
    rw [List.filter_eq_self]
    intro clause hclause
    rw [h clause hclause]
    rfl
  unfold joinAnd
  rw [hfilter]

theorem isEmpty_intercalate {clauses : List String} (hne : clauses ≠ [])
    (h : ∀ clause ∈ clauses, Text.allBlank clause.toList = false) :
    (String.intercalate ";" clauses).isEmpty = false := by
  cases clauses with
  | nil => contradiction
  | cons clause clauses =>
    have hclause : clause ≠ "" := by
      intro hempty
      have := h clause (by simp)
      rw [hempty] at this
      contradiction
    rw [Bool.eq_false_iff]
    intro hempty
    rw [String.isEmpty_iff] at hempty
    cases clauses with
    | nil =>
      rw [String.intercalate_singleton] at hempty
      contradiction
    | cons second clauses =>
      rw [String.intercalate_cons_cons, String.append_eq_empty_iff, String.append_eq_empty_iff]
        at hempty
      exact hclause hempty.1.1

end Clause
end ReportSegments
