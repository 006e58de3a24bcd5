import ReportSegments.Expression.Describe
import ReportSegments.Proofs.Expression.Grammar
import ReportSegments.Proofs.Text.Cut

/-!
This module contains where a clause is split again: at its own operator, just if that operator does
not occur before the end of its key. It never does if the clause can be read as a condition, so
that both ways of reading it agree.
-/

namespace ReportSegments
namespace Clause

open Text (OccursAt cutFirst?)

/--
Whether an operator that is written behind a key does not occur before the end of the key.
-/
def Delimits (operator key : String) : Prop :=
  ∀ i < key.length, ¬OccursAt operator.toList (key ++ operator).toList i

instance (operator key : String) : Decidable (Delimits operator key) :=
  inferInstanceAs (Decidable (∀ i < key.length, ¬OccursAt _ _ i))

variable {key operator value : String}

theorem toList_build (key operator value : String) :
    (build key operator value).toList = key.toList ++ (operator.toList ++ value.toList) := by
  unfold build
  rw [String.toList_append, String.toList_append, List.append_assoc]

/--
No value makes a difference to where the operator occurs first.
-/
theorem delimits_iff (value : String) :
    Delimits operator key ↔
      ∀ i < key.toList.length, ¬OccursAt operator.toList (build key operator value).toList i := by
  unfold Delimits
  rw [String.length_toList]
  apply forall₂_congr
  intro i hi
  rw [← String.length_toList] at hi
  have hlength : i + operator.toList.length ≤ (key ++ operator).toList.length := by
    rw [String.toList_append, List.length_append]
    omega
  have hclause : (build key operator value).toList = (key ++ operator).toList ++ value.toList :=
    String.toList_append
  rw [hclause, Text.occursAt_append hlength]

theorem split?_of_ne (hne : operator ≠ "") (clause : String) :
    split? clause operator =
      (cutFirst? operator.toList clause.toList).map fun (key, value) =>
        (String.ofList key, String.ofList value) := by
  unfold split?
  rw [if_neg]
  rw [String.isEmpty_iff]
  exact hne

theorem split?_empty (clause : String) : split? clause "" = none :=
  rfl

theorem split?_build (hne : operator ≠ "") (h : Delimits operator key) (value : String) :
    split? (build key operator value) operator = some (key, value) := by
  rw [delimits_iff value, toList_build] at h
  rw [split?_of_ne hne, toList_build, Text.cutFirst?_of_not_occursAt h, Option.map_some]
  simp only [String.ofList_toList]

/--
Nothing as long as the key is taken for it, unless the operator does not occur earlier.
-/
theorem delimits_of_split? {before after : String}
    (h : split? (build key operator value) operator = some (before, after))
    (hle : key.length ≤ before.length) : operator ≠ "" ∧ Delimits operator key := by
  have hne : operator ≠ "" := by
    rintro rfl
    rw [split?_empty] at h
    contradiction
  refine ⟨hne, ?_⟩
  rw [split?_of_ne hne, Option.map_eq_some_iff] at h
  obtain ⟨⟨front, rest⟩, hcut, heq⟩ := h
  obtain ⟨rfl, -⟩ := Prod.mk.inj heq
  rw [String.length_ofList] at hle
  rw [delimits_iff value]
  intro i hi
  apply (Text.cutFirst?_eq_some_iff.1 hcut).2
  rw [String.length_toList] at hi
  exact Nat.lt_of_lt_of_le hi hle

/--
A clause is split at its own operator just if that operator does not occur before the end of the
key.
-/
theorem split?_build_iff :
    split? (build key operator value) operator = some (key, value) ↔
      operator ≠ "" ∧ Delimits operator key := by
  constructor
  . intro h
    exact delimits_of_split? h (Nat.le_refl _)
  . rintro ⟨hne, h⟩
    exact split?_build hne h value

theorem exists_split?_build_shorter (hne : operator ≠ "") (h : ¬Delimits operator key)
    (value : String) :
    ∃ shorter rest, split? (build key operator value) operator = some (shorter, rest) ∧
      shorter.length < key.length := by
  have hcut : (split? (build key operator value) operator).isSome = true := by
    rw [split?_of_ne hne, toList_build, Option.isSome_map, Text.isSome_cutFirst?_append]
  obtain ⟨⟨shorter, rest⟩, hsplit⟩ := Option.isSome_iff_exists.1 hcut
  refine ⟨shorter, rest, hsplit, ?_⟩
  rw [← Nat.not_le]
  intro hle
  exact h (delimits_of_split? hsplit hle).2

theorem describe?_of_split? {clause : String} (h : split? clause operator = some (key, value))
    (registry : Registry) :
    describe? clause operator registry =
      some (registry.resolve key ++ " is \"" ++ Percent.decode value ++ "\"") := by
  unfold describe?
  rw [h]
  rfl

theorem describe?_build (hne : operator ≠ "") (h : Delimits operator key) (value : String)
    (registry : Registry) :
    describe? (build key operator value) operator registry =
      some (registry.resolve key ++ " is \"" ++ Percent.decode value ++ "\"") := by
  exact describe?_of_split? (split?_build hne h value) registry

/--
No operator of conditions occurs before the end of a key of conditions.
-/
theorem delimits_of_isKeyChar (h : ∀ c ∈ key.toList, Condition.isKeyChar c = true)
    (op : Operator) : Delimits op.text key := by
  intro i hi hoccurs
  -- The first character of the operator would be one of the key.
  obtain ⟨first, rest, hop, hfirst⟩ := Condition.exists_chars_append_eq_cons op []
  have hhead : op.text.toList[0]? = some first := by
    rw [Operator.toList_text, ← List.append_nil op.chars, hop]
    rfl
  have hkey := Text.getElem?_of_occursAt hoccurs hhead
  rw [← String.length_toList] at hi
  rw [String.toList_append, Nat.add_zero, List.getElem?_append_left hi] at hkey
  rw [h first (List.mem_of_getElem? hkey)] at hfirst
  contradiction

/--
An operator of two different characters cannot occur half in a key and half behind it.
-/
theorem delimits_of_not_infix {first second : Char} (hop : operator.toList = [first, second])
    (hne : first ≠ second) (h : ¬[first, second] <:+: key.toList) : Delimits operator key := by
  intro i hi hoccurs
  rw [String.toList_append, hop] at hoccurs
  rw [← String.length_toList] at hi
  by_cases hinside : i + [first, second].length ≤ key.toList.length
  . rw [Text.occursAt_append hinside] at hoccurs
    exact h (hoccurs.isInfix.trans (List.drop_suffix i key.toList).isInfix)
  . -- The second character would stand where the operator behind the key has its first.
    have hlast : i + 1 = key.toList.length := by
      rw [List.length_cons, List.length_singleton] at hinside
      omega
    have hsecond := Text.getElem?_of_occursAt (j := 1) hoccurs rfl
    rw [hlast, List.getElem?_append_right (Nat.le_refl _), Nat.sub_self] at hsecond
    exact hne (Option.some.inj hsecond)

/--
A clause around an escaped value is split into its key and that value, and so described by them,
just if its operator does not occur before the end of the key. Otherwise what is taken for the key
is too short.
-/
theorem split?_buildEscaped (key operator value : String) (registry : Registry) :
    (split? (buildEscaped key operator value) operator = some (key, escape value) ↔
      operator ≠ "" ∧ Delimits operator key) ∧
    (operator ≠ "" → ¬Delimits operator key →
      ∃ shorter rest,
        split? (buildEscaped key operator value) operator = some (shorter, rest) ∧
          shorter.length < key.length) ∧
    (operator ≠ "" → Delimits operator key →
      describe? (buildEscaped key operator value) operator registry =
        some ((registry.displayName? key).getD key ++ " is \"" ++
          Percent.decode (escape value) ++ "\"")) := by
  refine ⟨split?_build_iff, ?_, ?_⟩
  . intro hne h
    exact exists_split?_build_shorter hne h (escape value)
  . intro hne h
    exact describe?_build hne h (escape value) registry

theorem split?_buildEscaped_overlap :
    let registry : Registry := ⟨[("a=", "Name")]⟩
    ("==" ≠ "" ∧ ¬Delimits "==" "a=" ∧
      ∃ shorter rest, split? (buildEscaped "a=" "==" "b") "==" = some (shorter, rest) ∧
        shorter.length < "a=".length) ∧
    ("=@" ≠ "" ∧ Delimits "=@" "a=" ∧
      describe? (buildEscaped "a=" "=@" "=@b,") "=@" registry =
        some ("Name" ++ " is \"" ++ Percent.decode (escape "=@b,") ++ "\"")) := by
  intro registry
  have hinside : ¬Delimits "==" "a=" := by decide
  have hfirst : Delimits "=@" "a=" := by decide
  refine ⟨⟨by decide, hinside, ?_⟩, by decide, hfirst, ?_⟩
  . exact (split?_buildEscaped "a=" "==" "b" registry).2.1 (by decide) hinside
  . exact (split?_buildEscaped "a=" "=@" "=@b," registry).2.2 (by decide) hfirst

end Clause

namespace Condition

/--
A text that stands for a condition is split at the operator of that condition.
-/
theorem Spells.exists_split? {s : String} {c : Condition} (h : Spells s.toList c) :
    ∃ raw, Clause.split? s c.operator.text = some (c.key, raw) ∧ Percent.decode raw = c.value := by
  obtain ⟨value, hform, hvalue⟩ := h
  have hclause : s = Clause.build c.key c.operator.text (String.ofList value) := by
    rw [← String.toList_inj, Clause.toList_build, Operator.toList_text, String.toList_ofList,
      ← List.append_assoc, hform.text_eq]
  have hne : c.operator.text ≠ "" := by
    cases c.operator <;> decide
  rw [hclause]
  exact ⟨_, Clause.split?_build hne (Clause.delimits_of_isKeyChar hform.isKeyChar _) _, hvalue.symm⟩

end Condition

namespace Expression

open Condition (Spells)
open Text (trim isBlank)

theorem spells_of_parse {s : String} {c : Condition} (htrim : trim s.toList = s.toList)
    (hsep : ';' ∉ s.toList) (h : parse s = .ok [[c]]) : Spells s.toList c := by
  obtain ⟨⟨visible, hmem, hvisible⟩, htexts⟩ := parse_eq_ok_iff.1 h
  have hblank : s.toList.all isBlank = false := by
    rw [List.all_eq_false]
    exact ⟨visible, hmem, by simp [hvisible]⟩
  have hgroup : texts s = [(s.toList.splitOn ',').map trim] := by
    unfold texts
    rw [htrim, List.splitOn_eq_singleton hsep, List.filter_cons_of_pos]
    . rfl
    . simp [hblank]
  rw [hgroup, List.forall₂_cons] at htexts
  obtain ⟨text, rest, hspells, hrest, hpieces⟩ := List.forall₂_cons_right_iff.1 htexts.1
  obtain rfl := List.forall₂_nil_right_iff.1 hrest
  -- There is one text, so nothing was cut off from the expression.
  obtain ⟨piece, hpiece, rfl⟩ := List.map_eq_singleton_iff.1 hpieces
  have hjoin : [','].intercalate (s.toList.splitOn ',') = s.toList := List.intercalate_splitOn ','
  rw [hpiece, List.intercalate_singleton] at hjoin
  rw [hjoin, htrim] at hspells
  exact hspells

end Expression
end ReportSegments
