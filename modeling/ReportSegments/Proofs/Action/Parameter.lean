import ReportSegments.Proofs.Action.Popover
import ReportSegments.Proofs.Json.Accepted

/-!
This module contains which texts are read as the parameter of a popover, into which parts, and that
a popover that was read comes back out of the parameter that is written for it.
-/

namespace ReportSegments
namespace Popover

open Text (beforeFirst between afterLast)

/--
Whether a text has two colons, with something in front of the first one and something between the
first one and the last.
-/
def HasParts (cs : List Char) : Prop :=
  2 ≤ cs.count ':' ∧ cs.head? ≠ some ':' ∧ between ':' cs ≠ []

variable {s extra : String} {popover : Popover}

theorem hasParts_iff {cs : List Char} :
    HasParts cs ↔
      ∃ apiMethod expression extra, split? cs = some (apiMethod, expression, extra) := by
  unfold HasParts
  constructor
  . rintro ⟨hcount, hhead, hbetween⟩
    obtain ⟨apiMethod, expression, extra, rfl, hcolon, hextra⟩ :=
      Text.exists_eq_append_of_two_le_count hcount
    rw [Text.between_append hcolon hextra] at hbetween
    refine ⟨apiMethod, expression, extra, split?_append ?_ hcolon hbetween hextra⟩
    rintro rfl
    exact hhead rfl
  . rintro ⟨apiMethod, expression, extra, hsplit⟩
    obtain ⟨rfl, hmethod, hcolon, hexpression, hextra⟩ := split?_eq_some_iff.1 hsplit
    refine ⟨?_, ?_, ?_⟩
    . simp only [List.count_append, List.count_cons_self]
      omega
    . obtain ⟨c, rest, rfl⟩ := List.exists_cons_of_ne_nil hmethod
      rw [List.mem_cons, not_or] at hcolon
      simpa using Ne.symm hcolon.1
    . rwa [Text.between_append hcolon hextra]

theorem decode_eq_ok_iff :
    decode s = .ok popover ↔
      ∃ extra : String, popover.extra = decodeExtra extra ∧
        split? s.toList =
          some (popover.apiMethod.toList, popover.expression.toList, extra.toList) := by
  unfold decode
  constructor
  . intro h
    split at h
    . next apiMethod expression extra hsplit =>
      obtain rfl := Except.ok.inj h
      refine ⟨String.ofList extra, ?_, ?_⟩
      . dsimp only
      . rw [String.toList_ofList, String.toList_ofList, String.toList_ofList]
        exact hsplit
    . contradiction
  . rintro ⟨extra, hextra, hsplit⟩
    rw [hsplit]
    simp only [String.ofList_toList]
    rw [← hextra]

theorem exists_decode_eq_ok_iff : (∃ popover, decode s = .ok popover) ↔ HasParts s.toList := by
  rw [hasParts_iff]
  unfold decode
  split
  . next apiMethod expression extra hsplit => simp [hsplit]
  . next hsplit => simp [hsplit]

theorem decode_eq_error_iff : decode s = .error ⟨s⟩ ↔ ¬∃ popover, decode s = .ok popover := by
  unfold decode
  split <;> simp

theorem nesting_decodeExtra_le (extra : String) : (decodeExtra extra).nesting ≤ 127 := by
  unfold decodeExtra
  cases hread : Json.read? (Percent.decode extra) with
  | none => decide
  | some value => exact Json.nesting_le_of_read? hread

theorem exact_decodeExtra (h : (decodeExtra extra).Integral) : (decodeExtra extra).Exact := by
  unfold decodeExtra at h ⊢
  cases hread : Json.read? (Percent.decode extra) with
  | none => exact .object List.nodup_nil nofun
  | some value =>
    rw [hread] at h
    exact h.exact_of_read? hread

theorem decode_encode_of_decode (h : decode s = .ok popover) (hextra : popover.extra.Integral) :
    decode (encode popover) = .ok popover := by
  obtain ⟨hmethod, hcolon, hexpression⟩ := of_decode h
  obtain ⟨extra, heq, -⟩ := decode_eq_ok_iff.1 h
  rw [heq] at hextra
  have hexact := exact_decodeExtra hextra
  rw [← heq] at hexact
  rw [decode_encode hexact hmethod hcolon hexpression, heq, if_pos (nesting_decodeExtra_le extra),
    ← heq]

theorem parts_of_decode (h : decode s = .ok popover) :
    popover.apiMethod.toList = beforeFirst ':' s.toList ∧
    popover.expression.toList = between ':' s.toList ∧
    ∃ extra : String, extra.toList = afterLast ':' s.toList ∧
      s = popover.apiMethod ++ ":" ++ popover.expression ++ ":" ++ extra ∧
      ':' ∉ popover.apiMethod.toList ∧ ':' ∉ extra.toList ∧
      popover.extra = (Json.read? (Percent.decode extra)).getD (.object []) := by
  obtain ⟨extra, heq, hsplit⟩ := decode_eq_ok_iff.1 h
  obtain ⟨htext, -, hcolon, -, hextra⟩ := split?_eq_some_iff.1 hsplit
  rw [htext, Text.beforeFirst_append hcolon, Text.between_append hcolon hextra]
  refine ⟨rfl, rfl, extra, ?_, ?_, hcolon, hextra, heq⟩
  . rw [← List.cons_append, ← List.append_assoc, Text.afterLast_append hextra]
  . rw [← String.toList_inj, htext]
    simp

/--
A text is read as a parameter just if it has two colons, something in front of the first one and
something between the first one and the last. These are the API method and the expression, and what
is behind the last colon are the extra parameters, none if they are not JSON. If their numbers are
integers, the popover comes back out of its own parameter.
-/
theorem decode_parts (s : String) :
    ((∃ popover, decode s = .ok popover) ↔ HasParts s.toList) ∧
    (decode s = .error ⟨s⟩ ↔ ¬HasParts s.toList) ∧
    ∀ popover, decode s = .ok popover →
      (popover.apiMethod.toList = beforeFirst ':' s.toList ∧
        popover.expression.toList = between ':' s.toList ∧
        ∃ extra : String, extra.toList = afterLast ':' s.toList ∧
          s = popover.apiMethod ++ ":" ++ popover.expression ++ ":" ++ extra ∧
          ':' ∉ popover.apiMethod.toList ∧ ':' ∉ extra.toList ∧
          popover.extra = (Json.read? (Percent.decode extra)).getD (.object [])) ∧
      (popover.extra.Integral → decode (encode popover) = .ok popover) := by
  refine ⟨exists_decode_eq_ok_iff, ?_, ?_⟩
  . rw [decode_eq_error_iff, exists_decode_eq_ok_iff]
  . intro popover h
    exact ⟨parts_of_decode h, decode_encode_of_decode h⟩

set_option maxRecDepth 4000 in
/--
Extra parameters with a repeated name and a coding that is not the one that is written.
-/
theorem decode_parts_repeated :
    let s := "Api.get::k=@a:b::%7b%22a%22%3A-1%2C%22a%22%3A[-5]%7D"
    let popover : Popover := {
      apiMethod := "Api.get"
      expression := ":k=@a:b:"
      extra := .object [("a", .array [.number (.integer ⟨-5, by decide, by decide⟩)])]
    }
    decode s = .ok popover ∧ popover.extra.Integral ∧
      encode popover = "Api.get::k=@a:b::%7B%22a%22%3A%5B-5%5D%7D" ∧
      decode "Api.get::k=@a:b::%7B%22a%22%3A%5B-5%5D%7D" = .ok popover := by
  intro s popover
  have hoctets : Percent.octets "%7b%22a%22%3A-1%2C%22a%22%3A[-5]%7D".toList =
      "\x7b\"a\":-1,\"a\":[-5]\x7d".toList.flatMap String.utf8EncodeChar := by decide
  have hlexemes : (Json.Dialect.strict Json.nestingLimit).lexemes?
      "\x7b\"a\":-1,\"a\":[-5]\x7d".toList =
      some [.mark '{', .quoted ['a'], .mark ':', .word ['-', '1'], .mark ',', .quoted ['a'],
        .mark ':', .mark '[', .word ['-', '5'], .mark ']', .mark '}'] := by decide
  have hread : Json.read? "\x7b\"a\":-1,\"a\":[-5]\x7d" = some popover.extra := by
    unfold Json.read? Json.Dialect.read?
    rw [hlexemes]
    rfl
  have hextra : popover.extra = decodeExtra "%7b%22a%22%3A-1%2C%22a%22%3A[-5]%7D" := by
    unfold decodeExtra Percent.decode
    rw [Percent.decode?_of_octets hoctets, Option.getD_some, hread, Option.getD_some]
  have hdecode : decode s = .ok popover := decode_eq_ok_iff.2 ⟨_, hextra, by decide⟩
  have hintegral : popover.extra.Integral := by
    apply Json.Integral.object
    rw [List.forall_mem_singleton]
    apply Json.Integral.array
    rw [List.forall_mem_singleton]
    exact .integer _
  have hencode : encode popover = "Api.get::k=@a:b::%7B%22a%22%3A%5B-5%5D%7D" := by decide
  have hagain := ((decode_parts s).2.2 popover hdecode).2 hintegral
  rw [hencode] at hagain
  exact ⟨hdecode, hintegral, hencode, hagain⟩

end Popover
end ReportSegments
