import Mathlib.Data.List.Basic
import ReportSegments.Proofs.Text.Blank
import ReportSegments.Proofs.Text.Pieces
import ReportSegments.Report.Path

/-!
This module contains written paths: the places on a path can be told apart in the text, so that
different paths are written differently, and the paths that are read back are those without a
summary row.
-/

namespace ReportSegments

open Text (pieces)

namespace RowId

theorem toList_text_index (i : Nat) : (text (.index i)).toList = Nat.toDigits 10 i := by
  change i.repr.toList = Nat.toDigits 10 i
  rw [Nat.repr_eq_ofList_toDigits, String.toList_ofList]

theorem isDigit_of_mem_text {i : Nat} {c : Char} (h : c ∈ (text (.index i)).toList) :
    c.isDigit = true := by
  rw [toList_text_index] at h
  exact Nat.isDigit_of_mem_toDigits (by decide) (by decide) h

theorem text_ne_nil (id : RowId) : id.text.toList ≠ [] := by
  cases id with
  | index i =>
    rw [toList_text_index]
    exact Nat.toDigits_ne_nil
  | summary => decide

theorem slash_not_mem_text (id : RowId) : '/' ∉ id.text.toList := by
  cases id with
  | index i =>
    intro hmem
    have := isDigit_of_mem_text hmem
    contradiction
  | summary => decide

theorem text_index_ne_summary (i : Nat) : text (.index i) ≠ text .summary := by
  intro heq
  have hmem : 's' ∈ (text (.index i)).toList := by
    rw [heq]
    decide
  have := isDigit_of_mem_text hmem
  contradiction

theorem text_injective : Function.Injective text := by
  intro id other heq
  cases id with
  | index i =>
    cases other with
    | index j =>
      have hdigits := congrArg (Nat.ofDigitChars 10 ·.toList 0) heq
      simp only [toList_text_index, Nat.ofDigitChars_ten_toDigits] at hdigits
      rw [hdigits]
    | summary => exact absurd heq (text_index_ne_summary i)
  | summary =>
    cases other with
    | index j => exact absurd heq.symm (text_index_ne_summary j)
    | summary => rfl

/--
The places on a path are what stands between the slashes of the written path.
-/
theorem pieces_pathText {path : List RowId} (hne : path ≠ []) :
    pieces ['/'] (pathText path).toList = path.map fun id => id.text.toList := by
  have htext : (pathText path).toList = ['/'].intercalate (path.map fun id => id.text.toList) := by
    unfold pathText
    rw [String.toList_intercalate, List.map_map]
    rfl
  rw [htext, Text.pieces_intercalate]
  . rw [ne_eq, List.map_eq_nil_iff]
    exact hne
  . rw [List.forall_mem_map]
    exact fun id _ => slash_not_mem_text id

theorem splitOn_pathText {path : List RowId} (hne : path ≠ []) :
    Text.splitOn "/" (pathText path) = path.map text := by
  have hpieces : pieces "/".toList (pathText path).toList = path.map fun id => id.text.toList :=
    pieces_pathText hne
  unfold Text.splitOn
  rw [hpieces, List.map_map]
  apply List.map_congr_left
  intro id _
  exact String.ofList_toList

theorem pathText_ne_empty {path : List RowId} (hne : path ≠ []) : pathText path ≠ "" := by
  intro hempty
  have hpieces := pieces_pathText hne
  rw [hempty] at hpieces
  have hmem : [] ∈ path.map fun id => id.text.toList := by
    rw [← hpieces]
    exact List.mem_singleton_self []
  obtain ⟨id, -, hnil⟩ := List.mem_map.1 hmem
  exact text_ne_nil id hnil

theorem pathText_injective : Function.Injective pathText := by
  intro path other heq
  by_cases hpath : path = []
  . subst hpath
    by_contra hother
    exact pathText_ne_empty (Ne.symm hother) heq.symm
  . have hother : other ≠ [] := by
      rintro rfl
      exact pathText_ne_empty hpath heq
    have hmap : path.map text = other.map text := by
      rw [← splitOn_pathText hpath, ← splitOn_pathText hother, heq]
    exact List.map_injective_iff.2 text_injective hmap

theorem exists_indices {path : List RowId} (h : .summary ∉ path) :
    ∃ indices : List Nat, path = indices.map .index := by
  induction path with
  | nil => exact ⟨[], rfl⟩
  | cons id path ih =>
    rw [List.mem_cons, not_or] at h
    obtain ⟨indices, rfl⟩ := ih h.2
    cases id with
    | index i => exact ⟨i :: indices, rfl⟩
    | summary => exact absurd rfl h.1

end RowId

namespace Row

/--
Digits alone are read as their number, if it is not too large.
-/
theorem readIndex?_of_digits {cs : List Char} (hne : cs ≠ []) (h : ∀ c ∈ cs, c.isDigit = true) :
    readIndex? cs =
      if Nat.ofDigitChars 10 cs 0 < 18446744073709551616 then
        some (Nat.ofDigitChars 10 cs 0)
      else
        none := by
  have htrim : Text.trim cs = cs := by
    apply Text.trim_eq_self
    intro c hc
    exact Text.isBlank_of_isDigit (h c hc)
  unfold readIndex?
  rw [htrim]
  split
  . next digits =>
    have := h '+' (List.mem_cons_self ..)
    contradiction
  . have hall : cs.all Char.isDigit = true := List.all_eq_true.2 h
    simp only [hne, hall, ne_eq, not_false_eq_true, true_and]

theorem readIndex?_text_index {i : Nat} (h : i < 18446744073709551616) :
    readIndex? (RowId.text (.index i)).toList = some i := by
  rw [readIndex?_of_digits (RowId.text_ne_nil _) (fun _ => RowId.isDigit_of_mem_text),
    RowId.toList_text_index, Nat.ofDigitChars_ten_toDigits, if_pos h]

theorem readIndex?_text_summary : readIndex? (RowId.text .summary).toList = none := by
  decide

theorem readPath?_pathText {path : List RowId} (hne : path ≠ []) :
    readPath? (RowId.pathText path) = path.mapM fun id => readIndex? id.text.toList := by
  unfold readPath?
  rw [RowId.pieces_pathText hne, List.mapM_map]
  rfl

/--
A path of indices is read back from its text.
-/
theorem readPath?_pathText_index {path : List Nat} (hne : path ≠ [])
    (h : ∀ i ∈ path, i < 18446744073709551616) :
    readPath? (RowId.pathText (path.map .index)) = some path := by
  have hids : path.map RowId.index ≠ [] := by
    rw [ne_eq, List.map_eq_nil_iff]
    exact hne
  rw [readPath?_pathText hids, List.mapM_map]
  clear hne hids
  induction path with
  | nil => rfl
  | cons i path ih =>
    rw [List.forall_mem_cons] at h
    rw [List.mapM_cons, ih h.2, Function.comp_apply, readIndex?_text_index h.1]
    rfl

theorem readPath?_pathText_summary {path : List RowId} (h : .summary ∈ path) :
    readPath? (RowId.pathText path) = none := by
  rw [readPath?_pathText (List.ne_nil_of_mem h)]
  induction path with
  | nil => contradiction
  | cons id path ih =>
    rw [List.mapM_cons]
    rw [List.mem_cons] at h
    cases h with
    | inl heq =>
      rw [← heq, readIndex?_text_summary]
      rfl
    | inr hrest =>
      rw [ih hrest]
      cases readIndex? id.text.toList <;> rfl

end Row
end ReportSegments
