import ReportSegments.Proofs.Text.Blank

/-!
This module contains what removing blanks does to texts that are put together with a separator: only
the last of them loses some.
-/

namespace ReportSegments
namespace Text

variable {sep : Char} {part : List Char} {parts : List (List Char)}

/--
Removes the blanks at the end of the last text.
-/
def trimLast : List (List Char) → List (List Char)
  | [] => []
  | [part] => [trimEnd part]
  | part :: second :: parts => part :: trimLast (second :: parts)

theorem trimLast_cons (hne : parts ≠ []) : trimLast (part :: parts) = part :: trimLast parts := by
  cases parts with
  | nil => contradiction
  | cons second parts => rfl

theorem trimLast_ne_nil (hne : parts ≠ []) : trimLast parts ≠ [] := by
  fun_cases trimLast parts with
  | case1 => contradiction
  | case2 part => exact List.cons_ne_nil _ _
  | case3 part second parts => exact List.cons_ne_nil _ _

theorem forall_mem_trimLast {p : List Char → Prop} (htrim : ∀ part, p part → p (trimEnd part))
    (h : ∀ part ∈ parts, p part) : ∀ part ∈ trimLast parts, p part := by
  fun_induction trimLast parts with
  | case1 => exact h
  | case2 part =>
    rw [List.forall_mem_singleton] at h ⊢
    exact htrim part h
  | case3 part second parts ih =>
    rw [List.forall_mem_cons] at h ⊢
    exact ⟨h.1, ih h.2⟩

theorem mapM_trimLast {ε β : Type} {f : List Char → Except ε β}
    (h : ∀ part ∈ parts, f (trimEnd part) = f part) : (trimLast parts).mapM f = parts.mapM f := by
  fun_induction trimLast parts with
  | case1 => rfl
  | case2 part =>
    rw [List.forall_mem_singleton] at h
    rw [List.mapM_cons, List.mapM_cons, h]
  | case3 part second parts ih =>
    rw [List.forall_mem_cons] at h
    rw [List.mapM_cons, List.mapM_cons, ih h.2]

theorem allBlank_intercalate (hne : parts ≠ []) (h : ∀ part ∈ parts, allBlank part = false) :
    allBlank ([sep].intercalate parts) = false := by
  cases parts with
  | nil => contradiction
  | cons part parts =>
    have hpart : part.all isBlank = false := h part (List.mem_cons_self ..)
    unfold allBlank
    cases parts with
    | nil => rw [List.intercalate_singleton, hpart]
    | cons second parts =>
      rw [List.intercalate_cons_cons, List.all_append, List.all_append, hpart, Bool.false_and,
        Bool.false_and]

theorem trimEnd_intercalate (h : ∀ part ∈ parts, allBlank part = false) :
    trimEnd ([sep].intercalate parts) = [sep].intercalate (trimLast parts) := by
  induction parts with
  | nil => rfl
  | cons part parts ih =>
    cases parts with
    | nil => rw [List.intercalate_singleton, trimLast, List.intercalate_singleton]
    | cons second parts =>
      have hne := List.cons_ne_nil second parts
      rw [List.forall_mem_cons] at h
      have hrest : allBlank ([sep].intercalate (second :: parts)) = false :=
        allBlank_intercalate hne h.2
      rw [List.intercalate_cons_of_ne_nil hne, trimLast_cons hne,
        List.intercalate_cons_of_ne_nil (trimLast_ne_nil hne), ← ih h.2,
        trimEnd_append_of_not_allBlank hrest]

theorem trimStart_intercalate {c : Char} (h : isBlank c = false) :
    trimStart ([sep].intercalate ((c :: part) :: parts)) =
      [sep].intercalate ((c :: part) :: parts) := by
  rw [List.intercalate_cons_cons_left]
  exact trimStart_cons h _

end Text
end ReportSegments
