import ReportSegments.Text.Percent

/-!
This module contains the octets that percent coded text stands for: how they add up, and that there
are never more of them than the text itself has.
-/

namespace ReportSegments
namespace Percent

open Text (hexValue?)

/--
Whether a text starts with `%` and two hexadecimal digits.
-/
def startsEscape : List Char → Bool
  | '%' :: a :: b :: _ => (hexValue? a).isSome && (hexValue? b).isSome
  | _ => false

theorem startsEscape_of_ne {c : Char} (hne : c ≠ '%') (cs : List Char) :
    startsEscape (c :: cs) = false := by
  unfold startsEscape
  split
  . next heq =>
    simp only [List.cons.injEq] at heq
    exact absurd heq.1 hne
  . rfl

theorem exists_of_startsEscape {cs : List Char} (h : startsEscape cs = true) :
    ∃ a b rest x y, cs = '%' :: a :: b :: rest ∧ hexValue? a = some x ∧ hexValue? b = some y := by
  unfold startsEscape at h
  split at h
  . next a b rest =>
    rw [Bool.and_eq_true, Option.isSome_iff_exists, Option.isSome_iff_exists] at h
    obtain ⟨⟨x, ha⟩, y, hb⟩ := h
    exact ⟨a, b, rest, x, y, rfl, ha, hb⟩
  . contradiction

/--
Whether somewhere in a text there are `%` and two hexadecimal digits.
-/
def hasEscape : List Char → Bool
  | [] => false
  | c :: cs => startsEscape (c :: cs) || hasEscape cs

theorem octets_cons {c : Char} {cs : List Char} (h : startsEscape (c :: cs) = false) :
    octets (c :: cs) = String.utf8EncodeChar c ++ octets cs := by
  rw [octets.eq_def (c :: cs)]
  split
  . contradiction
  . next a b rest heq =>
    simp only [List.cons.injEq] at heq
    obtain ⟨rfl, rfl⟩ := heq
    split
    . next hx hy =>
      simp [startsEscape, hx, hy] at h
    . rfl
  . next heq =>
    simp only [List.cons.injEq] at heq
    obtain ⟨rfl, rfl⟩ := heq
    rfl

theorem octets_escape {a b : Char} {x y : Nat} (ha : hexValue? a = some x)
    (hb : hexValue? b = some y) (cs : List Char) :
    octets ('%' :: a :: b :: cs) = UInt8.ofNat (16 * x + y) :: octets cs := by
  rw [octets]
  simp only [ha, hb]

theorem escape_induction {motive : List Char → Prop} (nil : motive [])
    (escape : ∀ a b x y cs, hexValue? a = some x → hexValue? b = some y → motive cs →
      motive ('%' :: a :: b :: cs))
    (plain : ∀ c cs, startsEscape (c :: cs) = false → motive cs → motive (c :: cs))
    (cs : List Char) : motive cs := by
  fun_induction octets cs with
  | case1 => exact nil
  | case2 a b rest x y hb ha ih => exact escape a b x y rest ha hb ih
  | case3 a b rest hhex ih =>
    apply plain _ _ _ ih
    cases ha : hexValue? a with
    | none => simp [startsEscape, ha]
    | some x =>
      cases hb : hexValue? b with
      | none => simp [startsEscape, hb]
      | some y => exact (hhex x y ha hb).elim
  | case4 c rest hc ih =>
    apply plain _ _ _ ih
    unfold startsEscape
    split
    . next a b rest' heq =>
      simp only [List.cons.injEq] at heq
      exact (hc a b rest' heq.1 heq.2).elim
    . rfl

theorem startsEscape_append {c : Char} {front cs : List Char}
    (hfront : startsEscape (c :: front) = false)
    (h : ∀ c, cs.head? = some c → hexValue? c = none) :
    startsEscape (c :: (front ++ cs)) = false := by
  by_cases hc : c = '%'
  . subst hc
    match front, cs with
    | [], [] => rfl
    | [], [a] => rfl
    | [], a :: b :: rest => simp [startsEscape, h a rfl]
    | [a], [] => rfl
    | [a], b :: rest => simp [startsEscape, h b rfl]
    | a :: b :: front, cs => exact hfront
  . exact startsEscape_of_ne hc _

theorem octets_append (front : List Char) {cs : List Char}
    (h : ∀ c, cs.head? = some c → hexValue? c = none) :
    octets (front ++ cs) = octets front ++ octets cs := by
  induction front using escape_induction with
  | nil => rfl
  | escape a b x y rest ha hb ih =>
    simp only [List.cons_append]
    rw [octets_escape ha hb, octets_escape ha hb, ih, List.cons_append]
  | plain c rest hc ih =>
    rw [List.cons_append, octets_cons (startsEscape_append hc h), octets_cons hc, ih,
      List.append_assoc]

theorem octets_ne_nil {cs : List Char} (hne : cs ≠ []) : octets cs ≠ [] := by
  induction cs using escape_induction with
  | nil => contradiction
  | escape a b x y rest ha hb _ =>
    rw [octets_escape ha hb]
    simp
  | plain c rest hc _ =>
    rw [octets_cons hc]
    simp

theorem ne_percent_of_hexValue? {c : Char} {x : Nat} (h : hexValue? c = some x) : c ≠ '%' := by
  intro hc
  rw [hc] at h
  contradiction

theorem length_octets_cons_le (c : Char) (cs : List Char) :
    (octets (c :: cs)).length ≤ (String.utf8EncodeChar c).length + (octets cs).length := by
  cases hstart : startsEscape (c :: cs) with
  | false =>
    rw [octets_cons hstart]
    exact Nat.le_of_eq List.length_append
  | true =>
    obtain ⟨a, b, rest, x, y, heq, ha, hb⟩ := exists_of_startsEscape hstart
    obtain ⟨rfl, rfl⟩ := List.cons.inj heq
    have ha' := startsEscape_of_ne (ne_percent_of_hexValue? ha) (b :: rest)
    have hb' := startsEscape_of_ne (ne_percent_of_hexValue? hb) rest
    rw [octets_escape ha hb, octets_cons ha', octets_cons hb']
    simp only [List.length_cons, List.length_append, String.length_utf8EncodeChar]
    have := Char.utf8Size_pos '%'
    omega

/--
The octets of a text that can be decoded are those of the decoded text.
-/
theorem octets_of_decode? {s t : String} (h : decode? s = some t) :
    octets s.toList = t.toList.flatMap String.utf8EncodeChar := by
  unfold decode? String.fromUTF8? at h
  split at h
  . next hvalid =>
    obtain rfl := Option.some.inj h
    generalize ht : String.fromUTF8 ⟨(octets s.toList).toArray⟩ hvalid = t
    have hbytes : t.toList.utf8Encode = ⟨(octets s.toList).toArray⟩ := by
      rw [String.utf8Encode_toList, ← ht]
      rfl
    have hdata := congrArg ByteArray.data hbytes
    rw [List.utf8Encode, List.data_toByteArray] at hdata
    exact (List.toArray_inj hdata).symm
  . contradiction

theorem decode?_of_octets {s t : String}
    (h : octets s.toList = t.toList.flatMap String.utf8EncodeChar) : decode? s = some t := by
  have hbytes : (⟨(octets s.toList).toArray⟩ : ByteArray) = t.toByteArray := by
    apply ByteArray.ext
    rw [h, ← String.utf8Encode_toList, List.utf8Encode, List.data_toByteArray]
  unfold decode? String.fromUTF8?
  rw [hbytes, dif_pos t.isValidUTF8]
  rfl

end Percent
end ReportSegments
