import Mathlib.Data.List.Infix
import ReportSegments.Expression.Operator

/-!
This module contains how written operators are read back: behind an operator any text may stand,
only behind `<` and `>` it may not start with `=`.
-/

namespace ReportSegments
namespace Operator

def chars : Operator → List Char
  | equals => ['=', '=']
  | differs => ['!', '=']
  | atMost => ['<', '=']
  | atLeast => ['>', '=']
  | contains => ['=', '@']
  | excludes => ['!', '@']
  | startsWith => ['=', '^']
  | endsWith => ['=', '$']
  | less => ['<']
  | greater => ['>']

theorem toList_text (op : Operator) : op.text.toList = op.chars := by
  cases op <;> decide

/--
Whether an operator together with a `=` behind it is another operator.
-/
def isOpen : Operator → Bool
  | less => true
  | greater => true
  | _ => false

theorem read?_eq (cs : List Char) :
    read? cs = all.findSome? fun op => (op.chars.isPrefixOf? cs).map (op, ·) := by
  unfold read?
  simp only [toList_text]

theorem isPrefixOf?_pair {a b c : Char} (hne : b ≠ c) (cs : List Char) :
    [a, b].isPrefixOf? (a :: c :: cs) = none := by
  have hbeq : (b == c) = false := by
    rw [beq_eq_false_iff_ne]
    exact hne
  change (if a == a then (if b == c then some cs else none) else none) = none
  rw [hbeq, beq_self_eq_true]
  rfl

theorem read?_chars_append (op : Operator) {cs : List Char}
    (h : op.isOpen = true → cs.head? ≠ some '=') : read? (op.chars ++ cs) = some (op, cs) := by
  cases cs with
  | nil => cases op <;> rfl
  | cons c cs =>
    have hne : op.isOpen = true → '=' ≠ c := by
      intro hopen hc
      apply h hopen
      rw [hc]
      rfl
    rw [read?_eq, List.findSome?_eq_some_iff]
    cases op with
    | less =>
      refine ⟨[equals, differs, atMost, atLeast, contains, excludes, startsWith, endsWith], less,
        [greater], rfl, rfl, ?_⟩
      intro other hother
      rw [Option.map_eq_none_iff]
      cases other with
      | atMost => exact isPrefixOf?_pair (hne rfl) cs
      | less | greater => exact absurd hother (by decide)
      | _ => rfl
    | greater =>
      refine ⟨[equals, differs, atMost, atLeast, contains, excludes, startsWith, endsWith, less],
        greater, [], rfl, rfl, ?_⟩
      intro other hother
      rw [Option.map_eq_none_iff]
      cases other with
      | atLeast => exact isPrefixOf?_pair (hne rfl) cs
      | greater => exact absurd hother (by decide)
      | _ => rfl
    | _ =>
      rw [← List.findSome?_eq_some_iff]
      rfl

theorem read?_isOpen_append {op : Operator} (hopen : op.isOpen = true) (cs : List Char) :
    ∃ longer, read? (op.chars ++ '=' :: cs) = some (longer, cs) ∧ longer ≠ op := by
  cases op with
  | less => exact ⟨atMost, rfl, by decide⟩
  | greater => exact ⟨atLeast, rfl, by decide⟩
  | _ => contradiction

theorem head?_ne_of_read?_append {op : Operator} {cs rest : List Char}
    (h : read? (op.chars ++ cs) = some (op, rest)) : op.isOpen = true → cs.head? ≠ some '=' := by
  intro hopen hhead
  obtain ⟨cs, rfl⟩ := List.head?_eq_some_iff.1 hhead
  obtain ⟨longer, hread, hne⟩ := read?_isOpen_append hopen cs
  rw [hread, Option.some_inj, Prod.mk.injEq] at h
  exact hne h.1

/--
No longer operator stands in front of a text just if no `=` stands behind `<` or `>`.
-/
theorem longest_iff {op : Operator} {cs : List Char} :
    (∀ other : Operator, other.chars <+: op.chars ++ cs → other.chars.length ≤ op.chars.length) ↔
      (op.isOpen = true → cs.head? ≠ some '=') := by
  constructor
  . intro h hopen hhead
    obtain ⟨cs, rfl⟩ := List.head?_eq_some_iff.1 hhead
    cases op with
    | less => exact absurd (h atMost (List.prefix_append _ cs)) (by decide)
    | greater => exact absurd (h atLeast (List.prefix_append _ cs)) (by decide)
    | _ => contradiction
  . intro h other hother
    cases op with
    | less | greater =>
      cases cs with
      | nil => exact hother.length_le
      | cons c cs =>
        have hne : '=' ≠ c := by simpa [isOpen, eq_comm] using h rfl
        cases other <;> simp_all [chars]
    | _ => cases other <;> simp [chars]

theorem eq_append_of_read? {op : Operator} {cs rest : List Char}
    (h : read? cs = some (op, rest)) : cs = op.chars ++ rest := by
  rw [read?_eq] at h
  obtain ⟨other, -, h⟩ := List.exists_of_findSome?_eq_some h
  obtain ⟨found, hprefix, h⟩ := Option.map_eq_some_iff.1 h
  obtain ⟨rfl, rfl⟩ := Prod.mk.inj h
  exact (List.isPrefixOf?_eq_some_iff_append_eq.1 hprefix).symm

/--
What is read in front of a text is the longest operator there.
-/
theorem read?_eq_some_iff {op : Operator} {cs rest : List Char} :
    read? cs = some (op, rest) ↔
      cs = op.chars ++ rest ∧
        ∀ other : Operator, other.chars <+: cs → other.chars.length ≤ op.chars.length := by
  constructor
  . intro h
    obtain rfl := eq_append_of_read? h
    refine ⟨rfl, ?_⟩
    rw [longest_iff]
    exact head?_ne_of_read?_append h
  . rintro ⟨rfl, h⟩
    rw [longest_iff] at h
    exact read?_chars_append op h

end Operator
end ReportSegments
