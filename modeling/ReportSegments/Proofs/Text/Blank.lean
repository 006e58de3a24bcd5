import Mathlib.Data.List.TakeWhile
import ReportSegments.Text.Blank
import ReportSegments.Text.Hex

/-!
This module contains the code points of letters and digits, and what removing blanks at the end of a
text leaves: nothing is removed behind a character that is not blank, and what is removed is blank.
-/

namespace ReportSegments
namespace Text

theorem toNat_of_isAlphanum {c : Char} (h : c.isAlphanum = true) :
    ((65 ≤ c.toNat ∧ c.toNat ≤ 90) ∨ (97 ≤ c.toNat ∧ c.toNat ≤ 122)) ∨
      (48 ≤ c.toNat ∧ c.toNat ≤ 57) := by
  change (decide (c.val ≥ 'A'.val ∧ c.val ≤ 'Z'.val) ||
    (decide (c.val ≥ 'a'.val) && decide (c.val ≤ 'z'.val)) ||
    (decide (c.val ≥ '0'.val) && decide (c.val ≤ '9'.val))) = true at h
  simp only [Bool.or_eq_true, Bool.and_eq_true, decide_eq_true_eq] at h
  exact h

theorem isBlank_of_isAlphanum {c : Char} (h : c.isAlphanum = true) : isBlank c = false := by
  have := toNat_of_isAlphanum h
  unfold isBlank
  rw [Bool.eq_false_iff]
  simp only [ne_eq, Bool.or_eq_true, Bool.and_eq_true, decide_eq_true_eq, beq_iff_eq]
  omega

theorem isBlank_of_isDigit {c : Char} (h : c.isDigit = true) : isBlank c = false := by
  apply isBlank_of_isAlphanum
  unfold Char.isAlphanum
  rw [h, Bool.or_true]

/--
Whether a text ends in a blank.
-/
def EndsBlank (cs : List Char) : Prop :=
  ∃ c, cs.getLast? = some c ∧ isBlank c = true

instance (cs : List Char) : Decidable (EndsBlank cs) :=
  decidable_of_iff (cs.getLast?.any isBlank = true) (by rw [Option.any_eq_true]; rfl)

theorem trimStart_cons {c : Char} (h : isBlank c = false) (cs : List Char) :
    trimStart (c :: cs) = c :: cs := by
  unfold trimStart
  rw [List.dropWhile_cons_of_neg]
  rw [h]
  exact Bool.false_ne_true

theorem dropWhile_reverse {cs : List Char} (h : ¬EndsBlank cs) :
    cs.reverse.dropWhile isBlank = cs.reverse := by
  cases hcs : cs.reverse with
  | nil => rfl
  | cons c rest =>
    have hlast : cs.getLast? = some c := by
      rw [← List.head?_reverse, hcs]
      rfl
    rw [List.dropWhile_cons_of_neg]
    intro hblank
    exact h ⟨c, hlast, hblank⟩

theorem trimEnd_append {front : List Char} (h : ¬EndsBlank front) (cs : List Char) :
    trimEnd (front ++ cs) = front ++ trimEnd cs := by
  unfold trimEnd
  rw [List.reverse_append, List.dropWhile_append, dropWhile_reverse h]
  split
  . next hempty =>
    rw [List.isEmpty_iff] at hempty
    rw [hempty, List.reverse_reverse, List.reverse_nil, List.append_nil]
  . rw [List.reverse_append, List.reverse_reverse]

theorem trimEnd_append_of_not_allBlank {cs : List Char} (h : allBlank cs = false)
    (front : List Char) : trimEnd (front ++ cs) = front ++ trimEnd cs := by
  unfold trimEnd
  rw [List.reverse_append, List.dropWhile_append, if_neg]
  . rw [List.reverse_append, List.reverse_reverse]
  . intro hempty
    rw [List.isEmpty_iff] at hempty
    have htake := List.takeWhile_append_dropWhile (p := isBlank) (l := cs.reverse)
    rw [hempty, List.append_nil] at htake
    have hall := List.all_takeWhile (p := isBlank) (l := cs.reverse)
    rw [htake, List.all_reverse] at hall
    unfold allBlank at h
    rw [h] at hall
    contradiction

theorem trimEnd_eq_self {cs : List Char} (h : ¬EndsBlank cs) : trimEnd cs = cs := by
  unfold trimEnd
  rw [dropWhile_reverse h, List.reverse_reverse]

theorem not_endsBlank_trimEnd (cs : List Char) : ¬EndsBlank (trimEnd cs) := by
  intro ⟨c, hlast, hblank⟩
  unfold trimEnd at hlast
  rw [List.getLast?_reverse] at hlast
  have := List.head?_dropWhile_not isBlank cs.reverse
  rw [hlast] at this
  dsimp at this
  rw [hblank] at this
  contradiction

theorem trimEnd_trimEnd (cs : List Char) : trimEnd (trimEnd cs) = trimEnd cs :=
  trimEnd_eq_self (not_endsBlank_trimEnd cs)

theorem exists_eq_trimEnd_append (cs : List Char) :
    ∃ blanks, cs = trimEnd cs ++ blanks ∧ ∀ c ∈ blanks, isBlank c = true := by
  refine ⟨(cs.reverse.takeWhile isBlank).reverse, ?_, ?_⟩
  . unfold trimEnd
    rw [← List.reverse_append, List.takeWhile_append_dropWhile, List.reverse_reverse]
  . intro c hc
    rw [List.mem_reverse] at hc
    have hall := List.all_takeWhile (p := isBlank) (l := cs.reverse)
    rw [List.all_eq_true] at hall
    exact hall c hc

theorem mem_of_mem_trimEnd {c : Char} {cs : List Char} (h : c ∈ trimEnd cs) : c ∈ cs := by
  obtain ⟨blanks, hcs, -⟩ := exists_eq_trimEnd_append cs
  rw [hcs]
  exact List.mem_append_left blanks h

theorem mem_of_mem_trim {c : Char} {cs : List Char} (h : c ∈ trim cs) : c ∈ cs := by
  have hstart : trimStart cs <:+ cs := List.dropWhile_suffix isBlank
  apply hstart.subset
  exact mem_of_mem_trimEnd h

/--
A text is what removing its blanks leaves, with blanks around it.
-/
theorem exists_eq_append_trim (cs : List Char) :
    ∃ front back, cs = front ++ (trim cs ++ back) ∧ (∀ c ∈ front, isBlank c = true) ∧
      ∀ c ∈ back, isBlank c = true := by
  obtain ⟨back, hend, hback⟩ := exists_eq_trimEnd_append (trimStart cs)
  refine ⟨cs.takeWhile isBlank, back, ?_, ?_, hback⟩
  . have hstart := List.takeWhile_append_dropWhile (p := isBlank) (l := cs)
    unfold trim
    rw [← hend]
    exact hstart.symm
  . exact List.all_eq_true.1 List.all_takeWhile

theorem trim_append_blanks {front cs back : List Char} (hfront : ∀ c ∈ front, isBlank c = true)
    (hcs : ∀ c ∈ cs, isBlank c = false) (hback : ∀ c ∈ back, isBlank c = true) :
    trim (front ++ (cs ++ back)) = cs := by
  have hend : trimEnd back = [] := by
    unfold trimEnd
    rw [List.reverse_eq_nil_iff, List.dropWhile_eq_nil_iff]
    simpa using hback
  have hlast : ¬EndsBlank cs := by
    rintro ⟨c, hc, hblank⟩
    rw [hcs c (List.mem_of_getLast? hc)] at hblank
    contradiction
  have hstart : trimStart (front ++ (cs ++ back)) = trimStart (cs ++ back) :=
    List.dropWhile_append_of_pos hfront
  unfold trim
  rw [hstart]
  cases cs with
  | nil =>
    rw [List.nil_append, trimStart, List.dropWhile_eq_nil_iff.2 hback]
    rfl
  | cons c cs =>
    rw [List.cons_append, trimStart_cons (hcs c List.mem_cons_self), ← List.cons_append,
      trimEnd_append hlast, hend, List.append_nil]

theorem trim_eq_self {cs : List Char} (h : ∀ c ∈ cs, isBlank c = false) : trim cs = cs := by
  have hnil : ∀ c ∈ ([] : List Char), isBlank c = true := List.forall_mem_nil _
  simpa using trim_append_blanks hnil h hnil

theorem mem_trim_or_isBlank {c : Char} {cs : List Char} (h : c ∈ cs) :
    c ∈ trim cs ∨ isBlank c = true := by
  obtain ⟨front, back, hcs, hfront, hback⟩ := exists_eq_append_trim cs
  rw [hcs, List.mem_append, List.mem_append] at h
  rcases h with h | h | h
  . exact .inr (hfront c h)
  . exact .inl h
  . exact .inr (hback c h)

theorem trim_eq_nil_iff {cs : List Char} : trim cs = [] ↔ ∀ c ∈ cs, isBlank c = true := by
  constructor
  . intro h c hc
    have := mem_trim_or_isBlank hc
    simpa [h] using this
  . intro h
    cases hlast : (trim cs).getLast? with
    | none => exact List.getLast?_eq_none_iff.1 hlast
    | some c =>
      exfalso
      apply not_endsBlank_trimEnd (trimStart cs)
      refine ⟨c, hlast, ?_⟩
      apply h
      apply mem_of_mem_trim
      exact List.mem_of_getLast? hlast

theorem allBlank_trimEnd (cs : List Char) : allBlank (trimEnd cs) = allBlank cs := by
  obtain ⟨blanks, hcs, hblanks⟩ := exists_eq_trimEnd_append cs
  have hall : allBlank blanks = true := List.all_eq_true.2 hblanks
  unfold allBlank at hall ⊢
  rw [hcs, List.all_append, hall, Bool.and_true, ← hcs]

theorem endsBlank_append {cs : List Char} (hne : cs ≠ []) (front : List Char) :
    EndsBlank (front ++ cs) ↔ EndsBlank cs := by
  unfold EndsBlank
  rw [List.getLast?_append, List.getLast?_eq_some_getLast hne, Option.some_or]

theorem hexValue?_of_isBlank {c : Char} (h : isBlank c = true) : hexValue? c = none := by
  have hle : ∀ d : Char, d ≤ c ↔ d.toNat ≤ c.toNat := fun _ => Iff.rfl
  have hge : ∀ d : Char, c ≤ d ↔ c.toNat ≤ d.toNat := fun _ => Iff.rfl
  unfold isBlank at h
  unfold hexValue?
  simp only [hle, hge, Bool.or_eq_true, Bool.and_eq_true, decide_eq_true_eq, beq_iff_eq] at h ⊢
  rw [if_neg, if_neg, if_neg]
  all_goals
    simp only [Char.reduceToNat]
    omega

end Text
end ReportSegments
