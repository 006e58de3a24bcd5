import ReportSegments.Expression.Clause
import ReportSegments.Proofs.Text.Blank
import ReportSegments.Proofs.Text.Percent

/-!
This module contains what escaping does to a value, and when decoding gives the value back although
blanks at its end were removed in between: only if there were none.
-/

namespace ReportSegments
namespace Clause

open Text (EndsBlank isBlank trimEnd)
open Percent (octets decode? decode startsEscape hasEscape)

theorem toList_escape (value : String) :
    (escape value).toList = value.toList.flatMap escapeChar := by
  unfold escape
  rw [String.toList_ofList]

theorem escapeChar_cases (c : Char) :
    (c ∈ [',', ';', '&'] ∧ escapeChar c ∈ [['%', '2', 'C'], ['%', '3', 'B'], ['%', '2', '6']]) ∨
      (c ∉ [',', ';', '&'] ∧ escapeChar c = [c]) := by
  unfold escapeChar
  split
  . next h =>
    subst h
    decide
  . split
    . next h =>
      subst h
      decide
    . split
      . next h =>
        subst h
        decide
      . apply Or.inr
        simp [*]

theorem escapeChar_ne_nil (c : Char) : escapeChar c ≠ [] := by
  intro hnil
  rcases escapeChar_cases c with ⟨-, hcode⟩ | ⟨-, hself⟩
  . rw [hnil] at hcode
    contradiction
  . rw [hself] at hnil
    contradiction

theorem not_mem_escape {sep : Char} (hsep : sep ∈ [',', ';', '&']) (value : String) :
    sep ∉ (escape value).toList := by
  rw [toList_escape, List.mem_flatMap]
  intro ⟨c, _, hmem⟩
  rcases escapeChar_cases c with ⟨-, hcode⟩ | ⟨hc, hself⟩
  . simp only [List.mem_cons, List.not_mem_nil, or_false] at hsep hcode
    rcases hsep with rfl | rfl | rfl <;> rcases hcode with h | h | h <;> rw [h] at hmem <;>
      revert hmem <;> decide
  . rw [hself, List.mem_singleton] at hmem
    subst hmem
    exact hc hsep

theorem mem_escape_newline (value : String) :
    '\n' ∈ (escape value).toList ↔ '\n' ∈ value.toList := by
  have hchar : ∀ c, '\n' ∈ escapeChar c ↔ c = '\n' := by
    intro c
    rcases escapeChar_cases c with ⟨hc, hcode⟩ | ⟨-, hself⟩
    . simp only [List.mem_cons, List.not_mem_nil, or_false] at hc hcode
      rcases hcode with h | h | h <;> rw [h] <;> rcases hc with rfl | rfl | rfl <;> decide
    . rw [hself, List.mem_singleton]
      exact eq_comm
  rw [toList_escape, List.mem_flatMap]
  simp only [hchar, exists_eq_right]

theorem endsBlank_escape (value : String) :
    EndsBlank (escape value).toList ↔ EndsBlank value.toList := by
  rw [toList_escape]
  rcases List.eq_nil_or_concat value.toList with hnil | ⟨front, c, hvalue⟩
  . rw [hnil]
    rfl
  . rw [hvalue, List.concat_eq_append, List.flatMap_append, List.flatMap_singleton,
      Text.endsBlank_append (escapeChar_ne_nil c), Text.endsBlank_append (List.cons_ne_nil c [])]
    rcases escapeChar_cases c with ⟨hc, hcode⟩ | ⟨-, hself⟩
    . unfold EndsBlank
      simp only [List.mem_cons, List.not_mem_nil, or_false] at hc hcode
      rcases hcode with h | h | h <;> rw [h] <;> rcases hc with rfl | rfl | rfl <;>
        simp <;> decide
    . rw [hself]

theorem head?_escape (value : String) :
    (escape value).toList.head? = some '=' ↔ value.toList.head? = some '=' := by
  rw [toList_escape]
  cases value.toList with
  | nil => rfl
  | cons c cs =>
    rw [List.flatMap_cons]
    rcases escapeChar_cases c with ⟨hc, hcode⟩ | ⟨-, hself⟩
    . simp only [List.mem_cons, List.not_mem_nil, or_false] at hc hcode
      rcases hcode with h | h | h <;> rw [h] <;> rcases hc with rfl | rfl | rfl <;> simp
    . rw [hself]
      rfl

theorem length_octets_escapeChar_append_le (c : Char) (cs : List Char) :
    (octets (escapeChar c ++ cs)).length ≤
      (String.utf8EncodeChar c).length + (octets cs).length := by
  rcases escapeChar_cases c with ⟨-, hcode⟩ | ⟨-, hself⟩
  . have hone : (octets (escapeChar c ++ cs)).length = 1 + (octets cs).length := by
      simp only [List.mem_cons, List.not_mem_nil, or_false] at hcode
      rcases hcode with h | h | h <;> rw [h, Nat.add_comm] <;> rfl
    have hpos := Char.utf8Size_pos c
    rw [hone, String.length_utf8EncodeChar]
    omega
  . rw [hself, List.singleton_append]
    exact Percent.length_octets_cons_le c cs

theorem length_octets_escape_le (cs : List Char) :
    (octets (cs.flatMap escapeChar)).length ≤ (cs.flatMap String.utf8EncodeChar).length := by
  induction cs with
  | nil => exact Nat.le_refl _
  | cons c cs ih =>
    rw [List.flatMap_cons, List.flatMap_cons, List.length_append]
    have := length_octets_escapeChar_append_le c (cs.flatMap escapeChar)
    omega

/--
Blanks at the end of an escaped value are lost: what stands in front of them is never decoded to
the value.
-/
theorem trimEnd_escape_eq_of_decode {value : String}
    (h : decode (String.ofList (trimEnd (escape value).toList)) = value) :
    trimEnd (escape value).toList = (escape value).toList := by
  obtain ⟨blanks, hescape, hblanks⟩ := Text.exists_eq_trimEnd_append (escape value).toList
  generalize hfront : trimEnd (escape value).toList = front at *
  unfold decode at h
  cases hdecode : decode? (String.ofList front) with
  | none =>
    -- What is not decoded is the value itself, which then has no blanks at its end.
    rw [hdecode, Option.getD_none] at h
    have hvalue : ¬EndsBlank value.toList := by
      rw [← h, String.toList_ofList, ← hfront]
      apply Text.not_endsBlank_trimEnd
    rw [← endsBlank_escape] at hvalue
    rw [← hfront]
    exact Text.trimEnd_eq_self hvalue
  | some decoded =>
    -- What is decoded has all octets of the value, and none are left for blanks.
    rw [hdecode, Option.getD_some] at h
    subst h
    cases blanks with
    | nil => rw [hescape, List.append_nil]
    | cons blank blanks =>
      have hoctets := Percent.octets_of_decode? hdecode
      have hle := length_octets_escape_le decoded.toList
      rw [String.toList_ofList] at hoctets
      rw [← toList_escape, hescape, Percent.octets_append, List.length_append, hoctets] at hle
      . have := List.length_pos_iff.2 (Percent.octets_ne_nil (List.cons_ne_nil blank blanks))
        omega
      . intro c hc
        obtain rfl := Option.some.inj hc
        exact Text.hexValue?_of_isBlank (hblanks _ (List.mem_cons_self ..))

theorem exists_escapeChar_eq_cons (c : Char) :
    ∃ first rest, escapeChar c = first :: rest ∧ (first = '%' ∨ escapeChar c = [c]) := by
  rcases escapeChar_cases c with ⟨-, hcode⟩ | ⟨-, hself⟩
  . simp only [List.mem_cons, List.not_mem_nil, or_false] at hcode
    rcases hcode with h | h | h <;> exact ⟨_, _, h, .inl rfl⟩
  . exact ⟨c, [], hself, .inr hself⟩

/--
What stands at the front of an escaped value is `%`, or stands there in the value.
-/
theorem exists_of_flatMap_escapeChar_eq_cons {a : Char} (ha : a ≠ '%') {cs rest : List Char}
    (h : cs.flatMap escapeChar = a :: rest) :
    ∃ cs', cs = a :: cs' ∧ cs'.flatMap escapeChar = rest := by
  cases cs with
  | nil => contradiction
  | cons c cs =>
    obtain ⟨first, tail, hchar, hfirst⟩ := exists_escapeChar_eq_cons c
    rw [List.flatMap_cons, hchar, List.cons_append, List.cons.injEq] at h
    obtain ⟨rfl, hrest⟩ := h
    rw [hchar, List.cons.injEq] at hfirst
    obtain ⟨rfl, rfl⟩ := hfirst.resolve_left ha
    exact ⟨cs, rfl, hrest⟩

/--
Escaping makes no `%` with two hexadecimal digits out of one without, since what it writes starts
with `%`.
-/
theorem startsEscape_flatMap_escapeChar {c : Char} {cs : List Char}
    (h : startsEscape (c :: cs) = false) : startsEscape (c :: cs.flatMap escapeChar) = false := by
  rw [Bool.eq_false_iff]
  intro hstart
  obtain ⟨a, b, rest, x, y, heq, ha, hb⟩ := Percent.exists_of_startsEscape hstart
  obtain ⟨rfl, hbehind⟩ := List.cons.inj heq
  obtain ⟨cs', rfl, hlast⟩ :=
    exists_of_flatMap_escapeChar_eq_cons (Percent.ne_percent_of_hexValue? ha) hbehind
  obtain ⟨cs'', rfl, -⟩ :=
    exists_of_flatMap_escapeChar_eq_cons (Percent.ne_percent_of_hexValue? hb) hlast
  simp [startsEscape, ha, hb] at h

theorem octets_flatMap_escapeChar {cs : List Char} (h : hasEscape cs = false) :
    octets (cs.flatMap escapeChar) = cs.flatMap String.utf8EncodeChar := by
  induction cs with
  | nil => rfl
  | cons c cs ih =>
    unfold hasEscape at h
    rw [Bool.or_eq_false_iff] at h
    rw [List.flatMap_cons, List.flatMap_cons, ← ih h.2]
    rcases escapeChar_cases c with ⟨hc, -⟩ | ⟨-, hself⟩
    . simp only [List.mem_cons, List.not_mem_nil, or_false] at hc
      rcases hc with rfl | rfl | rfl <;> rfl
    . rw [hself, List.singleton_append, Percent.octets_cons (startsEscape_flatMap_escapeChar h.1)]

theorem decode_escape {value : String} (h : hasEscape value.toList = false) :
    decode (escape value) = value := by
  unfold decode
  rw [Percent.decode?_of_octets, Option.getD_some]
  rw [toList_escape, octets_flatMap_escapeChar h]

/--
A value without `%` and two hexadecimal digits is not lost by escaping, nor by removing the blanks at
its end if there are none.
-/
theorem decode_trimEnd_escape {value : String} (hend : ¬EndsBlank value.toList)
    (hplain : hasEscape value.toList = false) :
    decode (String.ofList (trimEnd (escape value).toList)) = value := by
  rw [← endsBlank_escape] at hend
  rw [Text.trimEnd_eq_self hend, String.ofList_toList, decode_escape hplain]

end Clause
end ReportSegments
