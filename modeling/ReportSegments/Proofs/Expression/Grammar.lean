import Mathlib.Data.List.Forall2
import ReportSegments.Proofs.Expression.Condition
import ReportSegments.Proofs.Text.Pieces

/-!
This module contains the grammar of segment expressions, and that exactly the expressions of this
grammar are read. The first text that is no condition is the one that is reported.
-/

namespace ReportSegments

open Text (isBlank trim)

section MapM

variable {α β ε : Type} {f : α → Except ε β} {x : α} {xs : List α} {e : ε}

theorem mapM_cons_eq_ok_iff {ys : List β} :
    (x :: xs).mapM f = .ok ys ↔
      ∃ y rest, f x = .ok y ∧ xs.mapM f = .ok rest ∧ y :: rest = ys := by
  rw [List.mapM_cons]
  cases f x with
  | error e => simp [bind, Except.bind]
  | ok y => cases xs.mapM f <;> simp [bind, Except.bind, pure, Except.pure]

theorem mapM_cons_eq_error_iff :
    (x :: xs).mapM f = .error e ↔
      f x = .error e ∨ (∃ y, f x = .ok y) ∧ xs.mapM f = .error e := by
  rw [List.mapM_cons]
  cases f x with
  | error e => simp [bind, Except.bind]
  | ok y => cases xs.mapM f <;> simp [bind, Except.bind, pure, Except.pure]

theorem mapM_eq_ok_iff_forall₂ {ys : List β} :
    xs.mapM f = .ok ys ↔ List.Forall₂ (fun x y => f x = .ok y) xs ys := by
  induction xs generalizing ys with
  | nil => cases ys <;> simp [pure, Except.pure]
  | cons x xs ih =>
    rw [mapM_cons_eq_ok_iff, List.forall₂_cons_left_iff]
    simp only [ih, eq_comm]

theorem exists_mapM_eq_ok_iff : (∃ ys, xs.mapM f = .ok ys) ↔ ∀ x ∈ xs, ∃ y, f x = .ok y := by
  induction xs with
  | nil => simp [pure, Except.pure]
  | cons x xs ih =>
    rw [List.forall_mem_cons, ← ih]
    simp only [mapM_cons_eq_ok_iff]
    constructor
    . rintro ⟨-, y, rest, hx, hxs, -⟩
      exact ⟨⟨y, hx⟩, rest, hxs⟩
    . rintro ⟨⟨y, hx⟩, rest, hxs⟩
      exact ⟨y :: rest, y, rest, hx, hxs, rfl⟩

/--
The error of a list is the one of the first item that has one.
-/
theorem mapM_eq_error_iff :
    xs.mapM f = .error e ↔
      ∃ front x behind, xs = front ++ x :: behind ∧ (∀ other ∈ front, ∃ y, f other = .ok y) ∧
        f x = .error e := by
  induction xs with
  | nil => simp [pure, Except.pure]
  | cons x xs ih =>
    rw [mapM_cons_eq_error_iff, ih]
    constructor
    . rintro (hx | ⟨hx, front, failed, behind, rfl, hfront, hfailed⟩)
      . exact ⟨[], x, xs, rfl, by simp, hx⟩
      . refine ⟨x :: front, failed, behind, rfl, ?_, hfailed⟩
        rw [List.forall_mem_cons]
        exact ⟨hx, hfront⟩
    . rintro ⟨front, failed, behind, heq, hfront, hfailed⟩
      cases front with
      | nil =>
        obtain ⟨rfl, rfl⟩ := List.cons.inj heq
        exact .inl hfailed
      | cons first front =>
        obtain ⟨rfl, rfl⟩ := List.cons.inj heq
        rw [List.forall_mem_cons] at hfront
        exact .inr ⟨hfront.1, front, failed, behind, rfl, hfront.2, hfailed⟩

theorem mapM_mapM_eq_error_iff {xss : List (List α)} :
    (xss.mapM fun xs => xs.mapM f) = .error e ↔ xss.flatten.mapM f = .error e := by
  induction xss with
  | nil => simp [pure, Except.pure]
  | cons xs xss ih =>
    rw [mapM_cons_eq_error_iff, ih, List.flatten_cons, List.mapM_append]
    cases xs.mapM f with
    | error e => simp [bind, Except.bind]
    | ok ys => cases xss.flatten.mapM f <;> simp [bind, Except.bind, pure, Except.pure]

end MapM

namespace Condition

/--
A text of the form `key OP value`, where neither the key nor the operator could be longer.
-/
structure Form (text key : List Char) (op : Operator) (value : List Char) : Prop where
  text_eq : text = key ++ op.chars ++ value
  key_ne_nil : key ≠ []
  isKeyChar : ∀ c ∈ key, isKeyChar c = true
  key_longest : ∀ other, other <+: text → (∀ c ∈ other, Condition.isKeyChar c = true) →
    other.length ≤ key.length
  operator_longest : ∀ other : Operator, other.chars <+: op.chars ++ value →
    other.chars.length ≤ op.chars.length
  oneLine : '\n' ∉ value

/--
Whether a condition stands for a text.
-/
def Spells (text : List Char) (c : Condition) : Prop :=
  ∃ value, Form text c.key.toList c.operator value ∧
    c.value = Percent.decode (String.ofList value)

theorem length_le_takeWhile {p : Char → Bool} {front text : List Char} (h : front <+: text)
    (hfront : ∀ c ∈ front, p c = true) : front.length ≤ (text.takeWhile p).length := by
  obtain ⟨rest, rfl⟩ := h
  rw [List.takeWhile_append_of_pos hfront, List.length_append]
  omega

theorem spells_of_read? {text : List Char} {c : Condition} (h : read? text = some c) :
    Spells text c := by
  unfold read? at h
  dsimp only at h
  split at h
  . contradiction
  . contradiction
  . next op value hop hkey =>
    split at h
    . contradiction
    . next hline =>
      obtain rfl := Option.some.inj h
      obtain ⟨hrest, hlongest⟩ := Operator.read?_eq_some_iff.1 hop
      refine ⟨value, ?_, rfl⟩
      dsimp only
      rw [String.toList_ofList]
      constructor
      . rw [List.append_assoc, ← hrest, List.takeWhile_append_dropWhile]
      . exact hkey
      . exact List.all_eq_true.1 List.all_takeWhile
      . intro other
        exact length_le_takeWhile
      . rw [← hrest]
        exact hlongest
      . simpa using hline

theorem read?_eq_some_iff {text : List Char} {c : Condition} :
    read? text = some c ↔ Spells text c := by
  constructor
  . exact spells_of_read?
  . rintro ⟨value, hform, hvalue⟩
    have hkey : IsKey c.key := by
      refine ⟨?_, hform.isKeyChar⟩
      intro hnil
      apply hform.key_ne_nil
      simp [hnil]
    rw [hform.text_eq, read?_append hkey, Operator.read?_chars_append, Option.bind_some]
    . dsimp only
      rw [if_neg hform.oneLine, ← hvalue]
    . rw [← Operator.longest_iff]
      exact hform.operator_longest

theorem not_spells_nil (c : Condition) : ¬Spells [] c := by
  rintro ⟨value, hform, -⟩
  apply hform.key_ne_nil
  simpa using (List.append_eq_nil_iff.1 (List.append_eq_nil_iff.1 hform.text_eq.symm).1).1

/--
Reads a condition from a text that is trimmed already.
-/
def ofText (text : List Char) : Except ExpressionError Condition :=
  match read? text with
  | some c => .ok c
  | none => .error (.invalidCondition (String.ofList text))

theorem ofText_eq_ok_iff {text : List Char} {c : Condition} :
    ofText text = .ok c ↔ Spells text c := by
  rw [← read?_eq_some_iff]
  unfold ofText
  cases read? text <;> simp

theorem ofText_eq_error_iff {text : List Char} {e : ExpressionError} :
    ofText text = .error e ↔
      e = .invalidCondition (String.ofList text) ∧ ¬∃ c, Spells text c := by
  simp only [← read?_eq_some_iff]
  unfold ofText
  cases read? text <;> simp [eq_comm]

end Condition

namespace Expression

open Condition (Spells ofText)

/--
The texts that the conditions of an expression are read from, group by group.
-/
def texts (s : String) : List (List (List Char)) :=
  (((trim s.toList).splitOn ';').filter fun group => !group.all isBlank).map fun group =>
    (group.splitOn ',').map trim

theorem parse_eq (s : String) :
    parse s =
      if trim s.toList = [] then
        .error .empty
      else
        (texts s).mapM fun group => group.mapM ofText := by
  unfold parse texts
  split
  . next hnil => rw [if_pos hnil]
  . next hne =>
    rw [if_neg hne, List.mapM_map, Text.pieces_singleton]
    congr
    funext group
    rw [Function.comp_apply, List.mapM_map, Text.pieces_singleton]
    rfl

theorem trim_ne_nil_iff {s : String} :
    trim s.toList ≠ [] ↔ ∃ c ∈ s.toList, isBlank c = false := by
  rw [ne_eq, Text.trim_eq_nil_iff]
  simp

theorem parse_eq_ok_iff {s : String} {e : Expression} :
    parse s = .ok e ↔
      (∃ c ∈ s.toList, isBlank c = false) ∧ List.Forall₂ (List.Forall₂ Spells) (texts s) e := by
  rw [parse_eq, ← trim_ne_nil_iff]
  split
  . simp [*]
  . simp only [*, ne_eq, not_false_eq_true, true_and, mapM_eq_ok_iff_forall₂,
      Condition.ofText_eq_ok_iff]

theorem exists_parse_eq_ok_iff {s : String} :
    (∃ e, parse s = .ok e) ↔
      (∃ c ∈ s.toList, isBlank c = false) ∧
        ∀ group ∈ texts s, ∀ text ∈ group, ∃ c, Spells text c := by
  simp only [parse_eq, ← trim_ne_nil_iff]
  split
  . simp [*]
  . simp only [*, ne_eq, not_false_eq_true, true_and, exists_mapM_eq_ok_iff,
      Condition.ofText_eq_ok_iff]

theorem parse_eq_error_iff {s : String} {e : ExpressionError} :
    parse s = .error e ↔
      (e = .empty ∧ ∀ c ∈ s.toList, isBlank c = true) ∨
        ∃ front text behind, (texts s).flatten = front ++ text :: behind ∧
          (∀ other ∈ front, ∃ c, Spells other c) ∧
          e = .invalidCondition (String.ofList text) ∧ ¬∃ c, Spells text c := by
  rw [parse_eq, ← Text.trim_eq_nil_iff]
  split
  . next hnil =>
    have htexts : texts s = [] := by simp [texts, hnil]
    simp [hnil, htexts, eq_comm]
  . next hne =>
    rw [mapM_mapM_eq_error_iff, mapM_eq_error_iff]
    simp only [hne, and_false, false_or, Condition.ofText_eq_ok_iff, Condition.ofText_eq_error_iff]

theorem parse_eq_empty_iff {s : String} :
    parse s = .error .empty ↔ ∀ c ∈ s.toList, isBlank c = true := by
  simp [parse_eq_error_iff]

theorem parse_eq_invalidCondition_iff {s text : String} :
    parse s = .error (.invalidCondition text) ↔
      ∃ front behind, (texts s).flatten = front ++ text.toList :: behind ∧
        (∀ other ∈ front, ∃ c, Spells other c) ∧ ¬∃ c, Spells text.toList c := by
  rw [parse_eq_error_iff]
  constructor
  . rintro (⟨h, -⟩ | ⟨front, text, behind, htexts, hfront, heq, htext⟩)
    . contradiction
    . obtain rfl := ExpressionError.invalidCondition.inj heq
      rw [String.toList_ofList]
      exact ⟨front, behind, htexts, hfront, htext⟩
  . rintro ⟨front, behind, htexts, hfront, htext⟩
    refine .inr ⟨front, text.toList, behind, htexts, hfront, ?_, htext⟩
    rw [String.ofList_toList]

theorem texts_eq_nil_iff {s : String} :
    texts s = [] ↔ ∀ c ∈ s.toList, c = ';' ∨ isBlank c = true := by
  unfold texts
  rw [List.map_eq_nil_iff, List.filter_eq_nil_iff]
  simp only [Bool.not_eq_true', Bool.not_eq_false, List.all_eq_true]
  rw [Text.forall_mem_splitOn_iff]
  constructor
  . intro h c hc
    cases Text.mem_trim_or_isBlank hc with
    | inl hc => exact h c hc
    | inr hblank => exact .inr hblank
  . intro h c hc
    exact h c (Text.mem_of_mem_trim hc)

theorem parse_eq_ok_nil_iff {s : String} :
    parse s = .ok [] ↔ ';' ∈ s.toList ∧ ∀ c ∈ s.toList, c = ';' ∨ isBlank c = true := by
  rw [parse_eq_ok_iff, List.forall₂_nil_right_iff, texts_eq_nil_iff, and_congr_left_iff]
  intro h
  constructor
  . rintro ⟨c, hc, hblank⟩
    have := h c hc
    simp_all
  . intro hmem
    exact ⟨';', hmem, by decide⟩

/--
A blank condition in a group that is not blank is an error.
-/
theorem exists_parse_eq_invalidCondition {s : String} {group piece : List Char}
    (hgroup : group ∈ (trim s.toList).splitOn ';') (hpiece : piece ∈ group.splitOn ',')
    (hne : ∃ c ∈ group, isBlank c = false) (hblank : ∀ c ∈ piece, isBlank c = true) :
    ∃ text, parse s = .error (.invalidCondition text) := by
  have hmem : [] ∈ (group.splitOn ',').map trim := by
    rw [← Text.trim_eq_nil_iff.2 hblank]
    exact List.mem_map_of_mem hpiece
  have hgroups : (group.splitOn ',').map trim ∈ texts s := by
    apply List.mem_map_of_mem
    simpa [hgroup] using hne
  have hok : ¬∃ e, parse s = .ok e := by
    rw [exists_parse_eq_ok_iff]
    intro h
    obtain ⟨c, hc⟩ := h.2 _ hgroups _ hmem
    exact Condition.not_spells_nil c hc
  cases hparse : parse s with
  | ok e => exact absurd ⟨e, hparse⟩ hok
  | error e =>
    cases e with
    | empty =>
      have hall := parse_eq_empty_iff.1 hparse
      rw [texts_eq_nil_iff.2 fun c hc => .inr (hall c hc)] at hgroups
      contradiction
    | invalidCondition text => exact ⟨text, rfl⟩

/--
An expression is read just if its texts are conditions; otherwise the first of them that is none is
the error.
-/
theorem parse_grammar (s : String) :
    (parse s = .error .empty ↔ ∀ c ∈ s.toList, isBlank c = true) ∧
      ((∃ e, parse s = .ok e) ↔
        (∃ c ∈ s.toList, isBlank c = false) ∧
          ∀ group ∈ texts s, ∀ text ∈ group, ∃ c, Spells text c) ∧
      (∀ e, parse s = .ok e ↔
        (∃ c ∈ s.toList, isBlank c = false) ∧
          List.Forall₂ (List.Forall₂ Spells) (texts s) e) ∧
      (∀ text : String, parse s = .error (.invalidCondition text) ↔
        ∃ front behind, (texts s).flatten = front ++ text.toList :: behind ∧
          (∀ other ∈ front, ∃ c, Spells other c) ∧ ¬∃ c, Spells text.toList c) ∧
      (parse s = .ok [] ↔ ';' ∈ s.toList ∧ ∀ c ∈ s.toList, c = ';' ∨ isBlank c = true) ∧
      ∀ group ∈ (trim s.toList).splitOn ';', (∃ c ∈ group, isBlank c = false) →
        ∀ piece ∈ group.splitOn ',', (∀ c ∈ piece, isBlank c = true) →
          ∃ text, parse s = .error (.invalidCondition text) := by
  refine ⟨parse_eq_empty_iff, exists_parse_eq_ok_iff, fun _ => parse_eq_ok_iff,
    fun _ => parse_eq_invalidCondition_iff, parse_eq_ok_nil_iff, ?_⟩
  intro group hgroup hne piece hpiece hblank
  exact exists_parse_eq_invalidCondition hgroup hpiece hne hblank

end Expression
end ReportSegments
