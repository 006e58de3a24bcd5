import ReportSegments.Proofs.Text.Blank
import ReportSegments.Proofs.Text.Percent

/-!
This module contains which characters percent coding writes, and that a text is read back from it.
-/

namespace ReportSegments

namespace Text

theorem hexValue?_capitalHexDigit : ∀ n < 16, hexValue? (capitalHexDigit n) = some n := by
  decide

end Text

namespace Percent

open Text (hexValue? capitalHexDigit)

/--
The characters of percent coding.
-/
def isCodeChar (c : Char) : Bool :=
  c.isAlphanum || c = '-' || c = '_' || c = '.' || c = '~' || c = '%'

theorem isCodeChar_of_isUnreserved {octet : UInt8} (h : isUnreserved octet = true) :
    isCodeChar (Char.ofNat octet.toNat) = true := by
  unfold isUnreserved at h
  unfold isCodeChar
  rw [Bool.or_eq_true]
  exact .inl h

theorem isCodeChar_capitalHexDigit : ∀ n < 16, isCodeChar (capitalHexDigit n) = true := by
  decide

theorem isCodeChar_of_mem_encodeOctet {octet : UInt8} {c : Char} (hc : c ∈ encodeOctet octet) :
    isCodeChar c = true := by
  unfold encodeOctet at hc
  split at hc
  . next h =>
    obtain rfl := List.mem_singleton.1 hc
    exact isCodeChar_of_isUnreserved h
  . have := octet.toNat_lt
    simp only [List.mem_cons, List.not_mem_nil, or_false] at hc
    rcases hc with rfl | rfl | rfl
    . decide
    . apply isCodeChar_capitalHexDigit
      omega
    . apply isCodeChar_capitalHexDigit
      omega

theorem isCodeChar_of_mem_encode {s : String} {c : Char} (hc : c ∈ (encode s).toList) :
    isCodeChar c = true := by
  unfold encode at hc
  rw [String.toList_ofList] at hc
  obtain ⟨octet, -, hc⟩ := List.mem_flatMap.1 hc
  exact isCodeChar_of_mem_encodeOctet hc

theorem isAscii_of_isUnreserved {octet : UInt8} (h : isUnreserved octet = true) :
    (Char.ofNat octet.toNat).toNat < 128 := by
  unfold isUnreserved at h
  simp only [Bool.or_eq_true, decide_eq_true_eq] at h
  rcases h with (((h | h) | h) | h) | h
  . have := Text.toNat_of_isAlphanum h
    omega
  all_goals
    rw [h]
    decide

theorem utf8EncodeChar_charOfNat {octet : UInt8} (h : (Char.ofNat octet.toNat).toNat < 128) :
    String.utf8EncodeChar (Char.ofNat octet.toNat) = [octet] := by
  have := octet.toNat_lt
  have hvalid : octet.toNat.isValidChar := .inl (by omega)
  have hnat : (Char.ofNat octet.toNat).toNat = octet.toNat := by
    unfold Char.ofNat
    rw [dif_pos hvalid]
    rfl
  rw [String.utf8EncodeChar_eq_singleton, List.singleton_inj, ← UInt8.toNat_inj]
  . rw [UInt32.toNat_toUInt8]
    change (Char.ofNat octet.toNat).toNat % 256 = octet.toNat
    omega
  . rw [Char.utf8Size_eq_one_iff, UInt32.le_iff_toNat_le]
    exact Nat.le_of_lt_succ h

theorem octets_unreserved {octet : UInt8} (h : isUnreserved octet = true) (cs : List Char) :
    octets (Char.ofNat octet.toNat :: cs) = octet :: octets cs := by
  have hne : Char.ofNat octet.toNat ≠ '%' := by
    intro hpercent
    unfold isUnreserved at h
    rw [hpercent] at h
    contradiction
  rw [octets_cons (startsEscape_of_ne hne cs),
    utf8EncodeChar_charOfNat (isAscii_of_isUnreserved h), List.singleton_append]

theorem octets_encodeOctet (octet : UInt8) (cs : List Char) :
    octets (encodeOctet octet ++ cs) = octet :: octets cs := by
  unfold encodeOctet
  split
  . next h => exact octets_unreserved h cs
  . have := octet.toNat_lt
    have hhigh : hexValue? (capitalHexDigit (octet.toNat / 16)) = some (octet.toNat / 16) := by
      apply Text.hexValue?_capitalHexDigit
      omega
    have hlow : hexValue? (capitalHexDigit (octet.toNat % 16)) = some (octet.toNat % 16) := by
      apply Text.hexValue?_capitalHexDigit
      omega
    simp only [List.cons_append, List.nil_append]
    rw [octets_escape hhigh hlow, Nat.div_add_mod, UInt8.ofNat_toNat]

theorem octets_flatMap_encodeOctet (codes : List UInt8) :
    octets (codes.flatMap encodeOctet) = codes := by
  induction codes with
  | nil => rfl
  | cons octet codes ih => rw [List.flatMap_cons, octets_encodeOctet, ih]

/--
Every text is read back from its percent coding.
-/
theorem decode_encode (s : String) : decode (encode s) = s := by
  have hoctets : octets (encode s).toList = s.toList.flatMap String.utf8EncodeChar := by
    unfold encode
    rw [String.toList_ofList, octets_flatMap_encodeOctet]
  unfold decode
  rw [decode?_of_octets hoctets]
  rfl

end Percent
end ReportSegments
