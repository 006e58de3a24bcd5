import ReportSegments.Text.Pieces

/-!
This module contains that the pieces of a text between separators of one character are those of
`List.splitOn`.
-/

namespace ReportSegments
namespace Text

theorem pieces_cons_self (sep : Char) (cs : List Char) :
    pieces [sep] (sep :: cs) = [] :: pieces [sep] cs := by
  unfold pieces
  rw [pieces.go, if_pos]
  . rfl
  . simp

theorem pieces_cons_of_ne {c sep : Char} (hne : c ≠ sep) (cs : List Char) :
    pieces [sep] (c :: cs) =
      match pieces [sep] cs with
      | [] => [[c]]
      | piece :: rest => (c :: piece) :: rest := by
  have hfront : ¬[sep].isPrefixOf (c :: cs) = true := by
    simp only [List.isPrefixOf_cons_cons, List.isPrefixOf_nil_left, Bool.and_true, beq_iff_eq]
    exact hne.symm
  unfold pieces
  rw [pieces.go]
  exact if_neg hfront

theorem pieces_singleton (sep : Char) (cs : List Char) : pieces [sep] cs = cs.splitOn sep := by
  induction cs with
  | nil => rfl
  | cons c cs ih =>
    rw [List.splitOn_cons_eq_if_modifyHead, ← ih]
    by_cases hc : c = sep
    . subst hc
      rw [pieces_cons_self, if_pos (beq_self_eq_true c)]
    . rw [pieces_cons_of_ne hc, if_neg (fun heq => hc (eq_of_beq heq)), ih]
      cases hsplit : cs.splitOn sep with
      | nil => exact absurd hsplit (List.splitOn_ne_nil sep cs)
      | cons piece rest => rfl

theorem pieces_of_not_mem {sep : Char} {cs : List Char} (h : sep ∉ cs) :
    pieces [sep] cs = [cs] := by
  rw [pieces_singleton, List.splitOn_eq_singleton h]

theorem pieces_intercalate {sep : Char} {parts : List (List Char)} (hne : parts ≠ [])
    (h : ∀ part ∈ parts, sep ∉ part) : pieces [sep] ([sep].intercalate parts) = parts := by
  rw [pieces_singleton, List.splitOn_intercalate sep h hne]

theorem forall_mem_splitOn_iff {sep : Char} {cs : List Char} {p : Char → Prop} :
    (∀ piece ∈ cs.splitOn sep, ∀ c ∈ piece, p c) ↔ ∀ c ∈ cs, c = sep ∨ p c := by
  induction cs with
  | nil => simp
  | cons c cs ih =>
    rw [List.splitOn_cons_eq_if_modifyHead, List.forall_mem_cons, ← ih]
    by_cases hc : c = sep
    . simp [hc]
    . rw [if_neg (fun heq => hc (eq_of_beq heq))]
      cases hsplit : cs.splitOn sep with
      | nil => exact absurd hsplit (List.splitOn_ne_nil sep cs)
      | cons piece rest => simp [hc, and_assoc]

theorem go_ne_nil (sep : List Char) (skip : Nat) (cs : List Char) :
    pieces.go sep skip cs ≠ [] := by
  fun_induction pieces.go sep skip cs <;> simp_all

/--
The pieces of a text with the separator between them are the text.
-/
theorem intercalate_go {sep : List Char} (hsep : sep ≠ []) (skip : Nat) (cs : List Char) :
    sep.intercalate (pieces.go sep skip cs) = cs.drop skip := by
  fun_induction pieces.go sep skip cs with
  | case1 => simp
  | case2 skip c cs ih => exact ih
  | case3 c cs hfront ih =>
    obtain ⟨rest, hrest⟩ := List.isPrefixOf_iff_prefix.1 hfront
    obtain ⟨first, sep, rfl⟩ := List.exists_cons_of_ne_nil hsep
    rw [List.cons_append, List.cons.injEq] at hrest
    obtain ⟨rfl, rfl⟩ := hrest
    rw [List.intercalate_cons_of_ne_nil (go_ne_nil _ _ _), ih, List.length_cons,
      Nat.add_sub_cancel, List.drop_left]
    rfl
  | case4 c cs hfront hnil => exact absurd hnil (go_ne_nil sep 0 cs)
  | case5 c cs hfront piece rest hgo ih =>
    rw [hgo] at ih
    rw [List.intercalate_cons_cons_left, ih]
    rfl

theorem intercalate_splitOn {sep : String} (hsep : sep ≠ "") (s : String) :
    sep.intercalate (splitOn sep s) = s := by
  have hlist : sep.toList ≠ [] := by
    rw [ne_eq, String.toList_eq_nil_iff]
    exact hsep
  apply String.toList_inj.1
  have hchars : String.toList ∘ String.ofList = id := funext fun _ => String.toList_ofList
  rw [String.toList_intercalate, splitOn, List.map_map, hchars, List.map_id]
  exact intercalate_go hlist 0 s.toList

theorem mem_intercalate {sep part : List Char} {parts : List (List Char)} (hpart : part ∈ parts)
    {c : Char} (hc : c ∈ part) : c ∈ sep.intercalate parts := by
  induction parts with
  | nil => contradiction
  | cons first parts ih =>
    rw [List.mem_cons] at hpart
    cases parts with
    | nil =>
      cases hpart with
      | inl heq => rw [List.intercalate_singleton, ← heq]; exact hc
      | inr hnil => contradiction
    | cons second parts =>
      rw [List.intercalate_cons_cons, List.mem_append, List.mem_append]
      cases hpart with
      | inl heq => exact .inl (.inl (heq ▸ hc))
      | inr hrest => exact .inr (ih hrest)

end Text
end ReportSegments
