import Mathlib.Data.List.Infix
import ReportSegments.Text.Pieces

/-!
This module contains what the two parts of a text are that is cut at the first occurrence of a
separator or at the last one of a character, and the three parts of a text around the first and the
last occurrence of a character.
-/

namespace ReportSegments
namespace Text

/--
Whether `sep` occurs in a text behind its first `i` characters.
-/
def OccursAt (sep cs : List Char) (i : Nat) : Prop :=
  sep <+: cs.drop i

instance (sep cs : List Char) (i : Nat) : Decidable (OccursAt sep cs i) :=
  inferInstanceAs (Decidable (sep <+: cs.drop i))

section First

variable {sep cs before after : List Char}

theorem occursAt_append {i : Nat} (h : i + sep.length ≤ cs.length) (rest : List Char) :
    OccursAt sep (cs ++ rest) i ↔ OccursAt sep cs i := by
  have hi : i ≤ cs.length := Nat.le_of_add_right_le h
  have hlength : sep.length ≤ (cs.drop i).length := by
    rw [List.length_drop]
    omega
  unfold OccursAt
  rw [List.drop_append_of_le_length hi, List.isPrefix_append_of_length hlength]

theorem getElem?_of_occursAt {i j : Nat} {c : Char} (h : OccursAt sep cs i)
    (hc : sep[j]? = some c) : cs[i + j]? = some c := by
  obtain ⟨hj, rfl⟩ := List.getElem?_eq_some_iff.1 hc
  rw [← List.getElem?_drop]
  exact List.prefix_iff_getElem?.1 h j hj

theorem cutFirst?_append_left (sep after : List Char) :
    cutFirst? sep (sep ++ after) = some ([], after) := by
  have hprefix : sep.isPrefixOf? (sep ++ after) = some after := by
    rw [List.isPrefixOf?_eq_some_iff_append_eq]
  rw [cutFirst?.eq_def, hprefix]

theorem isPrefixOf?_eq_none (h : ¬sep <+: cs) : sep.isPrefixOf? cs = none := by
  rw [Option.eq_none_iff_forall_ne_some]
  intro rest hrest
  exact h ⟨rest, List.isPrefixOf?_eq_some_iff_append_eq.1 hrest⟩

theorem cutFirst?_nil (h : ¬sep <+: []) : cutFirst? sep [] = none := by
  rw [cutFirst?.eq_def, isPrefixOf?_eq_none h]

theorem cutFirst?_cons {c : Char} (h : ¬sep <+: c :: cs) :
    cutFirst? sep (c :: cs) =
      (cutFirst? sep cs).map fun (before, after) => (c :: before, after) := by
  rw [cutFirst?.eq_def, isPrefixOf?_eq_none h]

theorem cutFirst?_of_not_occursAt
    (h : ∀ i < before.length, ¬OccursAt sep (before ++ (sep ++ after)) i) :
    cutFirst? sep (before ++ (sep ++ after)) = some (before, after) := by
  induction before with
  | nil => exact cutFirst?_append_left sep after
  | cons c before ih =>
    have hfront : ¬sep <+: c :: (before ++ (sep ++ after)) := h 0 (Nat.succ_pos _)
    rw [List.cons_append, cutFirst?_cons hfront, ih]
    . rfl
    . intro i hi
      exact h (i + 1) (Nat.succ_lt_succ hi)

theorem of_cutFirst? {cs before after : List Char} (h : cutFirst? sep cs = some (before, after)) :
    cs = before ++ (sep ++ after) ∧ ∀ i < before.length, ¬OccursAt sep cs i := by
  by_cases hprefix : sep <+: cs
  . obtain ⟨rest, rfl⟩ := hprefix
    rw [cutFirst?_append_left] at h
    obtain ⟨rfl, rfl⟩ := Prod.mk.inj (Option.some.inj h)
    exact ⟨rfl, nofun⟩
  . cases cs with
    | nil =>
      rw [cutFirst?_nil hprefix] at h
      contradiction
    | cons c cs =>
      rw [cutFirst?_cons hprefix, Option.map_eq_some_iff] at h
      obtain ⟨⟨front, rest⟩, hcut, heq⟩ := h
      obtain ⟨rfl, rfl⟩ := Prod.mk.inj heq
      obtain ⟨rfl, hfirst⟩ := of_cutFirst? hcut
      refine ⟨rfl, ?_⟩
      intro i hi
      cases i with
      | zero => exact hprefix
      | succ i => exact hfirst i (Nat.lt_of_succ_lt_succ hi)

/--
A text is cut where the separator occurs first.
-/
theorem cutFirst?_eq_some_iff :
    cutFirst? sep cs = some (before, after) ↔
      cs = before ++ (sep ++ after) ∧ ∀ i < before.length, ¬OccursAt sep cs i := by
  constructor
  . exact of_cutFirst?
  . rintro ⟨rfl, h⟩
    exact cutFirst?_of_not_occursAt h

theorem isSome_cutFirst?_append (front sep rest : List Char) :
    (cutFirst? sep (front ++ (sep ++ rest))).isSome = true := by
  induction front with
  | nil => rw [List.nil_append, cutFirst?_append_left, Option.isSome_some]
  | cons c front ih =>
    by_cases hprefix : sep <+: c :: (front ++ (sep ++ rest))
    . obtain ⟨after, hafter⟩ := hprefix
      rw [List.cons_append, ← hafter, cutFirst?_append_left, Option.isSome_some]
    . rw [List.cons_append, cutFirst?_cons hprefix, Option.isSome_map, ih]

end First

section Character

variable {sep : Char} {cs before after : List Char}

theorem occursAt_singleton_iff {i : Nat} : OccursAt [sep] cs i ↔ cs[i]? = some sep := by
  unfold OccursAt
  rw [← List.head?_drop]
  cases cs.drop i with
  | nil => simp
  | cons c rest => simp [eq_comm]

theorem cutFirst?_append (h : sep ∉ before) :
    cutFirst? [sep] (before ++ sep :: after) = some (before, after) := by
  apply cutFirst?_of_not_occursAt
  intro i hi hoccurs
  rw [occursAt_singleton_iff, List.getElem?_append_left hi] at hoccurs
  exact h (List.mem_of_getElem? hoccurs)

theorem not_mem_of_cutFirst? (h : cutFirst? [sep] cs = some (before, after)) : sep ∉ before := by
  obtain ⟨rfl, hfirst⟩ := cutFirst?_eq_some_iff.1 h
  intro hmem
  obtain ⟨i, hi, hsep⟩ := List.getElem_of_mem hmem
  apply hfirst i hi
  rw [occursAt_singleton_iff, List.getElem?_append_left hi, List.getElem?_eq_getElem hi, hsep]

theorem cutLast?_of_not_mem (h : sep ∉ cs) : cutLast? sep cs = none := by
  induction cs with
  | nil => rfl
  | cons c cs ih =>
    rw [List.mem_cons, not_or] at h
    rw [cutLast?, ih h.2]
    exact if_neg (Ne.symm h.1)

theorem cutLast?_append (h : sep ∉ after) :
    cutLast? sep (before ++ sep :: after) = some (before, after) := by
  induction before with
  | nil =>
    rw [List.nil_append, cutLast?, cutLast?_of_not_mem h]
    exact if_pos rfl
  | cons c before ih => rw [List.cons_append, cutLast?, ih]

theorem cutFirst?_singleton_eq_some_iff :
    cutFirst? [sep] cs = some (before, after) ↔ cs = before ++ sep :: after ∧ sep ∉ before := by
  constructor
  . intro h
    exact ⟨(of_cutFirst? h).1, not_mem_of_cutFirst? h⟩
  . rintro ⟨rfl, h⟩
    exact cutFirst?_append h

theorem exists_eq_append_last (h : sep ∈ cs) :
    ∃ before after, cs = before ++ sep :: after ∧ sep ∉ after := by
  obtain ⟨after, before, hcs, hafter⟩ := List.eq_append_cons_of_mem (List.mem_reverse.2 h)
  refine ⟨before.reverse, after.reverse, ?_, ?_⟩
  . rw [← List.reverse_reverse cs, hcs]
    simp
  . rwa [List.mem_reverse]

/--
A text is cut where the character occurs last.
-/
theorem cutLast?_eq_some_iff :
    cutLast? sep cs = some (before, after) ↔ cs = before ++ sep :: after ∧ sep ∉ after := by
  constructor
  . intro h
    by_cases hmem : sep ∈ cs
    . obtain ⟨front, rest, rfl, hrest⟩ := exists_eq_append_last hmem
      rw [cutLast?_append hrest] at h
      obtain ⟨rfl, rfl⟩ := Prod.mk.inj (Option.some.inj h)
      exact ⟨rfl, hrest⟩
    . rw [cutLast?_of_not_mem hmem] at h
      contradiction
  . rintro ⟨rfl, h⟩
    exact cutLast?_append h

/--
The text in front of the first `sep`, or all of it if there is none.
-/
def beforeFirst (sep : Char) (cs : List Char) : List Char :=
  cs.takeWhile (· ≠ sep)

/--
The text behind the last `sep`, or all of it if there is none.
-/
def afterLast (sep : Char) (cs : List Char) : List Char :=
  (cs.reverse.takeWhile (· ≠ sep)).reverse

/--
The text between the first `sep` and the last one.
-/
def between (sep : Char) (cs : List Char) : List Char :=
  ((cs.dropWhile (· ≠ sep)).tail.reverse.dropWhile (· ≠ sep)).tail.reverse

theorem takeWhile_append_ne (h : sep ∉ before) (after : List Char) :
    (before ++ sep :: after).takeWhile (· ≠ sep) = before := by
  rw [List.takeWhile_append_of_pos, List.takeWhile_cons_of_neg, List.append_nil]
  . simp
  . intro c hc
    rw [decide_eq_true_eq]
    rintro rfl
    exact h hc

theorem dropWhile_append_ne (h : sep ∉ before) (after : List Char) :
    (before ++ sep :: after).dropWhile (· ≠ sep) = sep :: after := by
  rw [List.dropWhile_append_of_pos, List.dropWhile_cons_of_neg]
  . simp
  . intro c hc
    rw [decide_eq_true_eq]
    rintro rfl
    exact h hc

theorem beforeFirst_append (h : sep ∉ before) (after : List Char) :
    beforeFirst sep (before ++ sep :: after) = before :=
  takeWhile_append_ne h after

theorem afterLast_append (h : sep ∉ after) (before : List Char) :
    afterLast sep (before ++ sep :: after) = after := by
  unfold afterLast
  rw [List.reverse_append, List.reverse_cons, List.append_assoc, List.singleton_append,
    takeWhile_append_ne, List.reverse_reverse]
  rwa [List.mem_reverse]

theorem between_append (hbefore : sep ∉ before) (hafter : sep ∉ after) (middle : List Char) :
    between sep (before ++ sep :: (middle ++ sep :: after)) = middle := by
  unfold between
  rw [dropWhile_append_ne hbefore, List.tail_cons, List.reverse_append, List.reverse_cons,
    List.append_assoc, List.singleton_append, dropWhile_append_ne, List.tail_cons,
    List.reverse_reverse]
  rwa [List.mem_reverse]

theorem exists_eq_append_of_two_le_count (h : 2 ≤ cs.count sep) :
    ∃ before middle after, cs = before ++ sep :: (middle ++ sep :: after) ∧ sep ∉ before ∧
      sep ∉ after := by
  have hmem : sep ∈ cs := List.count_pos_iff.1 (by omega)
  obtain ⟨before, rest, rfl, hbefore⟩ := List.eq_append_cons_of_mem hmem
  rw [List.count_append, List.count_eq_zero.2 hbefore, List.count_cons_self] at h
  have hrest : sep ∈ rest := List.count_pos_iff.1 (by omega)
  obtain ⟨middle, after, rfl, hafter⟩ := exists_eq_append_last hrest
  exact ⟨before, middle, after, rfl, hbefore, hafter⟩

end Character

end Text
end ReportSegments
