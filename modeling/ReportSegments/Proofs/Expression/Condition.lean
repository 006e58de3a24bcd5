import ReportSegments.Expression.Condition
import ReportSegments.Proofs.Expression.Escape
import ReportSegments.Proofs.Expression.Operator

/-!
This module contains which conditions are read back from the clause that is written for them, with
or without the blanks at the end of the clause.
-/

namespace ReportSegments
namespace Condition

open Text (EndsBlank isBlank trim trimStart trimEnd)
open Percent (decode)
open Clause (mem_escape_newline endsBlank_escape head?_escape)

def clause (c : Condition) : String :=
  Clause.buildEscaped c.key c.operator.text c.value

def IsKey (key : String) : Prop :=
  key ≠ "" ∧ ∀ c ∈ key.toList, isKeyChar c = true

/--
The conditions whose value is not lost in their clause.
-/
structure IsWritable (c : Condition) : Prop where
  oneLine : '\n' ∉ c.value.toList
  noBlankEnd : ¬EndsBlank c.value.toList
  closed : c.operator.isOpen = true → c.value.toList.head? ≠ some '='
  decodes : decode (Clause.escape c.value) = c.value

instance (key : String) : Decidable (IsKey key) :=
  decidable_of_iff (key ≠ "" ∧ key.toList.all isKeyChar = true) (by rw [List.all_eq_true]; rfl)

instance (c : Condition) : Decidable c.IsWritable :=
  decidable_of_iff
    (('\n' ∉ c.value.toList ∧ ¬EndsBlank c.value.toList) ∧
      (c.operator.isOpen = true → c.value.toList.head? ≠ some '=') ∧
      decode (Clause.escape c.value) = c.value)
    ⟨fun h => ⟨h.1.1, h.1.2, h.2.1, h.2.2⟩,
      fun h => ⟨⟨h.oneLine, h.noBlankEnd⟩, h.closed, h.decodes⟩⟩

theorem toList_clause (c : Condition) :
    c.clause.toList = c.key.toList ++ c.operator.chars ++ (Clause.escape c.value).toList := by
  unfold clause Clause.buildEscaped Clause.build
  rw [String.toList_append, String.toList_append, Operator.toList_text]

theorem isBlank_of_isKeyChar {c : Char} (h : isKeyChar c = true) : isBlank c = false := by
  unfold isKeyChar at h
  simp only [Bool.or_eq_true, decide_eq_true_eq] at h
  rcases h with ((h | rfl) | rfl) | rfl
  . exact Text.isBlank_of_isAlphanum h
  all_goals decide

theorem exists_chars_append_eq_cons (op : Operator) (cs : List Char) :
    ∃ c rest, op.chars ++ cs = c :: rest ∧ isKeyChar c = false := by
  cases op <;> exact ⟨_, _, rfl, by decide⟩

theorem not_endsBlank_append_chars (front : List Char) (op : Operator) :
    ¬EndsBlank (front ++ op.chars) := by
  obtain ⟨c, rest, hop, -⟩ := exists_chars_append_eq_cons op []
  rw [List.append_nil] at hop
  rw [Text.endsBlank_append]
  . intro ⟨c, hlast, hblank⟩
    revert hblank
    cases op <;> (obtain rfl := Option.some.inj hlast; decide)
  . rw [hop]
    exact List.cons_ne_nil c rest

theorem trim_append {key : String} (hkey : IsKey key) (op : Operator) (cs : List Char) :
    trim (key.toList ++ op.chars ++ cs) = key.toList ++ op.chars ++ trimEnd cs := by
  obtain ⟨hne, hchars⟩ := hkey
  have hstart : trimStart (key.toList ++ op.chars ++ cs) = key.toList ++ op.chars ++ cs := by
    cases hlist : key.toList with
    | nil => exact absurd (String.toList_eq_nil_iff.1 hlist) hne
    | cons c rest =>
      rw [hlist] at hchars
      apply Text.trimStart_cons
      exact isBlank_of_isKeyChar (hchars c (List.mem_cons_self ..))
  unfold trim
  rw [hstart, Text.trimEnd_append (not_endsBlank_append_chars _ _)]

theorem read?_append {key : String} (hkey : IsKey key) (op : Operator) (cs : List Char) :
    read? (key.toList ++ op.chars ++ cs) =
      (Operator.read? (op.chars ++ cs)).bind fun (op, value) =>
        if '\n' ∈ value then none else some ⟨key, op, decode (String.ofList value)⟩ := by
  obtain ⟨hne, hchars⟩ := hkey
  have hlist : key.toList ≠ [] := by
    intro hnil
    exact hne (String.toList_eq_nil_iff.1 hnil)
  obtain ⟨c, rest, hop, hc⟩ := exists_chars_append_eq_cons op cs
  have htake : (key.toList ++ (op.chars ++ cs)).takeWhile isKeyChar = key.toList := by
    rw [List.takeWhile_append_of_pos hchars, hop, List.takeWhile_cons_of_neg, List.append_nil]
    rw [hc]
    exact Bool.false_ne_true
  have hdrop : (key.toList ++ (op.chars ++ cs)).dropWhile isKeyChar = op.chars ++ cs := by
    rw [List.dropWhile_append_of_pos hchars, hop, List.dropWhile_cons_of_neg]
    rw [hc]
    exact Bool.false_ne_true
  unfold read?
  rw [List.append_assoc, htake, hdrop]
  cases Operator.read? (op.chars ++ cs) with
  | none => cases key.toList <;> rfl
  | some found =>
    cases hcons : key.toList with
    | nil => contradiction
    | cons first rest =>
      simp only [Option.bind_some, List.contains_iff_mem]
      rw [← hcons, String.ofList_toList]

theorem parse_trimEnd_clause {c : Condition} (hkey : IsKey c.key) :
    parse (trimEnd c.clause.toList) = parse c.clause.toList := by
  unfold parse
  rw [toList_clause, Text.trimEnd_append (not_endsBlank_append_chars _ _), trim_append hkey,
    trim_append hkey, Text.trimEnd_trimEnd]

theorem parse_eq_ok_iff {cs : List Char} {c : Condition} :
    parse cs = .ok c ↔ read? (trim cs) = some c := by
  unfold parse
  split
  . next condition hread =>
    rw [hread, Except.ok.injEq, Option.some_inj]
  . next hread =>
    rw [hread]
    simp

/--
A clause on one line is read as one condition, whatever its value is.
-/
theorem parse_clause {c : Condition} (hkey : IsKey c.key) (hclosed : c.operator.isOpen = false)
    (hline : '\n' ∉ c.value.toList) :
    parse c.clause.toList =
      .ok { c with
        value := decode (String.ofList (trimEnd (Clause.escape c.value).toList)) } := by
  have hlineEnd : '\n' ∉ trimEnd (Clause.escape c.value).toList := by
    intro hmem
    apply hline
    rw [← mem_escape_newline]
    exact Text.mem_of_mem_trimEnd hmem
  rw [parse_eq_ok_iff, toList_clause, trim_append hkey, read?_append hkey,
    Operator.read?_chars_append, Option.bind_some]
  . dsimp only
    rw [if_neg hlineEnd]
  . intro hopen
    rw [hclosed] at hopen
    contradiction

/--
A condition is read back from its clause just if its value is not lost there.
-/
theorem parse_clause_iff {c : Condition} (hkey : IsKey c.key) :
    parse c.clause.toList = .ok c ↔ c.IsWritable := by
  rw [parse_eq_ok_iff, toList_clause, trim_append hkey, read?_append hkey]
  constructor
  . intro h
    obtain ⟨⟨op, value⟩, hread, hvalue⟩ := Option.bind_eq_some_iff.1 h
    dsimp only at hvalue
    split at hvalue
    . contradiction
    . next hline =>
      have hc := Option.some.inj hvalue
      obtain rfl : op = c.operator := congrArg operator hc
      have hdecode : decode (String.ofList value) = c.value := congrArg Condition.value hc
      have hclosed := Operator.head?_ne_of_read?_append hread
      rw [Operator.read?_chars_append _ hclosed, Option.some_inj, Prod.mk.injEq] at hread
      obtain ⟨-, rfl⟩ := hread
      -- The value was read without the blanks at its end, so there are none.
      have hescape := Clause.trimEnd_escape_eq_of_decode hdecode
      rw [hescape] at hline hdecode hclosed
      rw [String.ofList_toList] at hdecode
      refine ⟨?_, ?_, ?_, hdecode⟩
      . rw [← mem_escape_newline]
        exact hline
      . rw [← endsBlank_escape, ← hescape]
        apply Text.not_endsBlank_trimEnd
      . intro hopen
        rw [ne_eq, ← head?_escape]
        exact hclosed hopen
  . intro ⟨oneLine, noBlankEnd, closed, decodes⟩
    rw [← mem_escape_newline] at oneLine
    rw [← endsBlank_escape] at noBlankEnd
    rw [Text.trimEnd_eq_self noBlankEnd, Operator.read?_chars_append, Option.bind_some]
    . dsimp only
      rw [if_neg oneLine, String.ofList_toList, decodes]
    . intro hopen
      rw [ne_eq, head?_escape]
      exact closed hopen

end Condition
end ReportSegments
