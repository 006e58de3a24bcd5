import Mathlib.Data.List.TakeWhile
import ReportSegments.Json.Strict

/-!
This module contains that a written integer is read back.
-/

namespace ReportSegments
namespace Json
namespace Strict

theorem digitChar_ne_zero : ∀ n < 10, n ≠ 0 → Nat.digitChar n ≠ '0' := by
  decide

theorem exists_toDigits_eq_cons {n : Nat} (hn : n ≠ 0) :
    ∃ c rest, Nat.toDigits 10 n = c :: rest ∧ c ≠ '0' := by
  induction n using Nat.strongRecOn with
  | ind n ih =>
    rw [Nat.toDigits_eq_if (by decide)]
    split
    . next hlt => exact ⟨_, _, rfl, digitChar_ne_zero n hlt hn⟩
    . next hle =>
      obtain ⟨c, rest, heq, hc⟩ := ih (n / 10) (by omega) (by omega)
      rw [heq]
      exact ⟨c, _, rfl, hc⟩

theorem plainWhole_toDigits (n : Nat) : Literal.plainWhole (Nat.toDigits 10 n) = true := by
  by_cases hn : n = 0
  . subst hn
    rfl
  . obtain ⟨c, rest, heq, hc⟩ := exists_toDigits_eq_cons hn
    rw [heq]
    unfold Literal.plainWhole
    split
    . next h => exact absurd (List.cons.inj h).1 hc
    . rfl

theorem readUnsigned?_toDigits (negative : Bool) (n : Nat) :
    Literal.readUnsigned? negative (Nat.toDigits 10 n) =
      some ⟨negative, Nat.toDigits 10 n, none, none⟩ := by
  have hdigits : ∀ c ∈ Nat.toDigits 10 n, c.isDigit = true :=
    fun c hc => Nat.isDigit_of_mem_toDigits (by decide) (by decide) hc
  have htake : (Nat.toDigits 10 n).takeWhile Char.isDigit = Nat.toDigits 10 n :=
    List.takeWhile_eq_self_iff.2 hdigits
  have hdrop : (Nat.toDigits 10 n).dropWhile Char.isDigit = [] :=
    List.dropWhile_eq_nil_iff.2 hdigits
  unfold Literal.readUnsigned?
  rw [htake, hdrop]
  rfl

theorem literal?_toDigits (n : Nat) :
    literal? (Nat.toDigits 10 n) = some ⟨false, Nat.toDigits 10 n, none, none⟩ := by
  unfold literal?
  split
  next negative digits h =>
    split at h
    . next cs hcs =>
      have hmem : '-' ∈ Nat.toDigits 10 n := by
        rw [hcs]
        exact List.mem_cons_self
      have hdigit := Nat.isDigit_of_mem_toDigits (by decide) (by decide) hmem
      contradiction
    . simp only [Prod.mk.injEq] at h
      obtain ⟨rfl, rfl⟩ := h
      rw [readUnsigned?_toDigits]
      simp [Option.filter, plainWhole_toDigits, Nat.toDigits_ne_nil]

theorem literal?_minus_toDigits (n : Nat) :
    literal? ('-' :: Nat.toDigits 10 n) = some ⟨true, Nat.toDigits 10 n, none, none⟩ := by
  change (Literal.readUnsigned? true (Nat.toDigits 10 n)).filter _ = _
  rw [readUnsigned?_toDigits]
  simp [Option.filter, plainWhole_toDigits, Nat.toDigits_ne_nil]

theorem readWord?_of_literal? {cs : List Char} {l : Literal} (h : literal? cs = some l) :
    readWord? cs = some ((number? l).elim .unreadable .number) := by
  unfold readWord?
  split
  . contradiction
  . contradiction
  . contradiction
  . rw [h]
    rfl

theorem ofInt?_val (n : Integer) : Integer.ofInt? n.val = some n := by
  unfold Integer.ofInt?
  rw [dif_pos ⟨n.min_le, n.lt_max⟩]

theorem number?_of_integer? {l : Literal} {n : Integer} (h : l.integer? = some n.val)
    (hzero : (l.negative && n.val = 0) = false) : number? l = some (.integer n) := by
  unfold number?
  rw [h, Option.bind_some, ofInt?_val]
  dsimp only
  rw [hzero]
  rfl

theorem readWord?_text (n : Integer) : readWord? n.text = some (.number (.integer n)) := by
  unfold Integer.text
  split
  . next k hval =>
    rw [readWord?_of_literal? (literal?_toDigits k), number?_of_integer? (n := n)]
    . rfl
    . simp [Literal.integer?, Literal.value, Nat.ofDigitChars_ten_toDigits, hval]
    . rfl
  . next k hval =>
    rw [readWord?_of_literal? (literal?_minus_toDigits (k + 1)), number?_of_integer? (n := n)]
    . rfl
    . simp [Literal.integer?, Literal.value, Nat.ofDigitChars_ten_toDigits, hval]
      omega
    . simp [hval]

end Strict
end Json
end ReportSegments
