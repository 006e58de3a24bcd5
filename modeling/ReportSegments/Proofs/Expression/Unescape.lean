import Mathlib.Data.List.Infix
import ReportSegments.Proofs.Expression.Escape

/-!
This module contains how escaping is undone. Decoding does it just for the values that have no
percent codes of their own, and for those on which neither escaping nor decoding has an effect.
Reading back nothing but the three codes that escaping writes does it for all values without these
codes, so that no two of them are escaped to the same text.
-/

namespace ReportSegments
namespace Clause

open Percent (octets decode? decode startsEscape hasEscape)
open Text (hexValue?)

theorem escape_eq_self_iff {value : String} :
    escape value = value ↔ ∀ c ∈ [',', ';', '&'], c ∉ value.toList := by
  constructor
  . intro hself c hc
    rw [← hself]
    exact not_mem_escape hc value
  . intro h
    rw [← String.toList_inj, toList_escape]
    have hchars : ∀ c ∈ value.toList, escapeChar c = [c] := by
      intro c hc
      rcases escapeChar_cases c with ⟨hreserved, -⟩ | ⟨-, hself⟩
      . exact absurd hc (h c hreserved)
      . exact hself
    rw [List.flatMap_congr hchars]
    exact List.flatMap_singleton' _

theorem escapeChar_of_hexValue? {c : Char} {x : Nat} (h : hexValue? c = some x) :
    escapeChar c = [c] := by
  rcases escapeChar_cases c with ⟨hc, -⟩ | ⟨-, hself⟩
  . simp only [List.mem_cons, List.not_mem_nil, or_false] at hc
    rcases hc with rfl | rfl | rfl <;> contradiction
  . exact hself

/--
A text with a percent code stands for fewer octets than it has, also when it was escaped.
-/
theorem length_octets_escape_lt {cs : List Char} (h : hasEscape cs = true) :
    (octets (cs.flatMap escapeChar)).length < (cs.flatMap String.utf8EncodeChar).length := by
  induction cs using Percent.escape_induction with
  | nil => contradiction
  | escape a b x y cs ha hb _ =>
    have hpercent : escapeChar '%' = ['%'] := rfl
    have hle := length_octets_escape_le cs
    simp only [List.flatMap_cons, hpercent, escapeChar_of_hexValue? ha, escapeChar_of_hexValue? hb,
      List.singleton_append, List.length_append, String.length_utf8EncodeChar]
    rw [Percent.octets_escape ha hb, List.length_cons]
    have := Char.utf8Size_pos '%'
    have := Char.utf8Size_pos a
    omega
  | plain c cs hstart ih =>
    rw [hasEscape, hstart, Bool.false_or] at h
    have hle := length_octets_escapeChar_append_le c (cs.flatMap escapeChar)
    have hlt := ih h
    rw [List.flatMap_cons, List.flatMap_cons, List.length_append]
    omega

theorem decode?_eq_none_iff {s : String} :
    decode? s = none ↔ ¬ByteArray.IsValidUTF8 ⟨(octets s.toList).toArray⟩ := by
  unfold decode? String.fromUTF8?
  split
  . next hvalid => simp [hvalid]
  . next hinvalid => simp [hinvalid]

/--
When decoding undoes escaping: the value has no `%` with two hexadecimal digits, or else nothing is
escaped in it and the octets it stands for are not UTF-8.
-/
theorem decode_escape_iff (value : String) :
    decode (escape value) = value ↔
      hasEscape value.toList = false ∨
        (∀ c ∈ [',', ';', '&'], c ∉ value.toList) ∧
          ¬ByteArray.IsValidUTF8 ⟨(octets value.toList).toArray⟩ := by
  constructor
  . intro h
    cases hcode : hasEscape value.toList with
    | false => exact .inl rfl
    | true =>
      apply Or.inr
      unfold decode at h
      cases hdecode : decode? (escape value) with
      | some decoded =>
        -- What is decoded has fewer octets than the value.
        rw [hdecode, Option.getD_some] at h
        subst h
        have hoctets := Percent.octets_of_decode? hdecode
        have hlt := length_octets_escape_lt hcode
        rw [← toList_escape, hoctets] at hlt
        exact absurd hlt (Nat.lt_irrefl _)
      | none =>
        rw [hdecode, Option.getD_none] at h
        rw [h, decode?_eq_none_iff] at hdecode
        exact ⟨escape_eq_self_iff.1 h, hdecode⟩
  . rintro (hplain | ⟨hreserved, hoctets⟩)
    . exact decode_escape hplain
    . unfold decode
      rw [escape_eq_self_iff.2 hreserved, decode?_eq_none_iff.2 hoctets]
      rfl

example : decode (escape "%,2C") = "%,2C" ∧ decode (escape "%FF") = "%FF" ∧
    decode (escape "%FF,") ≠ "%FF," := by
  decide

/--
The codes of the reserved characters.
-/
def codes : List (List Char) :=
  [['%', '2', 'C'], ['%', '3', 'B'], ['%', '2', '6']]

/--
The values in which no code of a reserved character occurs.
-/
def IsCodeFree (cs : List Char) : Prop :=
  ∀ code ∈ codes, ¬code <:+: cs

instance (cs : List Char) : Decidable (IsCodeFree cs) :=
  inferInstanceAs (Decidable (∀ code ∈ codes, ¬code <:+: cs))

/--
Reads the codes of reserved characters back and leaves all else as it is.
-/
def unescape : List Char → List Char
  | '%' :: '2' :: 'C' :: cs => ',' :: unescape cs
  | '%' :: '3' :: 'B' :: cs => ';' :: unescape cs
  | '%' :: '2' :: '6' :: cs => '&' :: unescape cs
  | c :: cs => c :: unescape cs
  | [] => []

theorem unescape_escapeChar_append {c : Char} (hc : c ∈ [',', ';', '&']) (cs : List Char) :
    unescape (escapeChar c ++ cs) = c :: unescape cs := by
  simp only [List.mem_cons, List.not_mem_nil, or_false] at hc
  rcases hc with rfl | rfl | rfl <;> rfl

theorem unescape_cons {c : Char} {cs : List Char} (h : ∀ code ∈ codes, ¬code <+: c :: cs) :
    unescape (c :: cs) = c :: unescape cs := by
  rw [unescape.eq_def]
  split
  . next rest heq => exact absurd ⟨rest, heq.symm⟩ (h ['%', '2', 'C'] (by decide))
  . next rest heq => exact absurd ⟨rest, heq.symm⟩ (h ['%', '3', 'B'] (by decide))
  . next rest heq => exact absurd ⟨rest, heq.symm⟩ (h ['%', '2', '6'] (by decide))
  . next heq =>
    obtain ⟨rfl, rfl⟩ := List.cons.inj heq
    rfl
  . contradiction

theorem prefix_of_prefix_escape {code cs : List Char} (hcode : code ∈ codes) {c : Char}
    (h : code <+: c :: cs.flatMap escapeChar) : code <+: c :: cs := by
  -- Behind the `%` of the code no other `%` comes, so the code was not put together by escaping.
  obtain ⟨a, b, rfl, ha, hb⟩ : ∃ a b, code = ['%', a, b] ∧ a ≠ '%' ∧ b ≠ '%' := by
    simp only [codes, List.mem_cons, List.not_mem_nil, or_false] at hcode
    rcases hcode with rfl | rfl | rfl <;> exact ⟨_, _, rfl, by decide, by decide⟩
  obtain ⟨rest, hrest⟩ := h
  obtain ⟨rfl, hbehind⟩ := List.cons.inj hrest
  obtain ⟨cs', rfl, hlast⟩ := exists_of_flatMap_escapeChar_eq_cons ha hbehind.symm
  obtain ⟨cs'', rfl, -⟩ := exists_of_flatMap_escapeChar_eq_cons hb hlast
  exact ⟨cs'', rfl⟩

/--
Where no code of a reserved character occurs, reading the codes back undoes escaping.
-/
theorem unescape_flatMap_escapeChar {cs : List Char} (h : IsCodeFree cs) :
    unescape (cs.flatMap escapeChar) = cs := by
  induction cs with
  | nil => rfl
  | cons c cs ih =>
    have hrest : IsCodeFree cs := fun code hcode hin => h code hcode (List.infix_cons hin)
    rw [List.flatMap_cons]
    rcases escapeChar_cases c with ⟨hc, -⟩ | ⟨-, hself⟩
    . rw [unescape_escapeChar_append hc, ih hrest]
    . rw [hself, List.singleton_append, unescape_cons, ih hrest]
      intro code hcode hprefix
      exact h code hcode (prefix_of_prefix_escape hcode hprefix).isInfix

theorem eq_of_escape_eq {value other : String} (hvalue : IsCodeFree value.toList)
    (hother : IsCodeFree other.toList) (h : escape value = escape other) : value = other := by
  rw [← String.toList_inj, ← unescape_flatMap_escapeChar hvalue,
    ← unescape_flatMap_escapeChar hother, ← toList_escape, ← toList_escape, h]

end Clause
end ReportSegments
