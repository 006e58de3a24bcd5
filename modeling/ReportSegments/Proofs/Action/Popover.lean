import ReportSegments.Action.Popover
import ReportSegments.Proofs.Json.RoundTrip
import ReportSegments.Proofs.Text.Cut

/-!
This module contains which popovers come back out of the parameter that is written for them.
-/

namespace ReportSegments
namespace Popover

variable {cs apiMethod expression extra : List Char}

theorem split?_append (hmethod : apiMethod ≠ []) (hcolon : ':' ∉ apiMethod)
    (hexpression : expression ≠ []) (hextra : ':' ∉ extra) :
    split? (apiMethod ++ ':' :: (expression ++ ':' :: extra)) =
      some (apiMethod, expression, extra) := by
  unfold split?
  rw [Text.cutFirst?_append hcolon]
  dsimp only [Option.bind_eq_bind, Option.bind_some]
  rw [Text.cutLast?_append hextra]
  simp [hmethod, hexpression]

theorem split?_eq_some_iff :
    split? cs = some (apiMethod, expression, extra) ↔
      cs = apiMethod ++ ':' :: (expression ++ ':' :: extra) ∧ apiMethod ≠ [] ∧ ':' ∉ apiMethod ∧
        expression ≠ [] ∧ ':' ∉ extra := by
  constructor
  . intro h
    unfold split? at h
    simp only [Option.bind_eq_bind, Option.bind_eq_some_iff] at h
    obtain ⟨⟨first, rest⟩, hfirst, ⟨before, after⟩, hlast, h⟩ := h
    dsimp only at h
    split at h
    . contradiction
    . next hempty =>
      simp only [Option.pure_def, Option.some.injEq, Prod.mk.injEq] at h
      obtain ⟨rfl, rfl, rfl⟩ := h
      obtain ⟨rfl, hcolon⟩ := Text.cutFirst?_singleton_eq_some_iff.1 hfirst
      obtain ⟨rfl, hextra⟩ := Text.cutLast?_eq_some_iff.1 hlast
      rw [Bool.or_eq_true, not_or, List.isEmpty_iff, List.isEmpty_iff] at hempty
      exact ⟨rfl, hempty.1, hcolon, hempty.2, hextra⟩
  . rintro ⟨rfl, hmethod, hcolon, hexpression, hextra⟩
    exact split?_append hmethod hcolon hexpression hextra

theorem toList_encode (popover : Popover) :
    (encode popover).toList =
      popover.apiMethod.toList ++ ':' :: (popover.expression.toList ++
        ':' :: (Percent.encode popover.extra.compact).toList) := by
  simp [encode]

theorem colon_not_mem_encode (s : String) : ':' ∉ (Percent.encode s).toList := by
  intro hmem
  exact absurd (Percent.isCodeChar_of_mem_encode hmem) (by decide)

theorem decodeExtra_encode {extra : Json} (h : extra.Exact) :
    decodeExtra (Percent.encode extra.compact) =
      if extra.nesting ≤ 127 then extra else .object [] := by
  unfold decodeExtra
  rw [Percent.decode_encode, h.read?_compact, Json.nestingLimit]
  split <;> rfl

theorem decode_encode {popover : Popover} (hextra : popover.extra.Exact)
    (hmethod : popover.apiMethod ≠ "") (hcolon : ':' ∉ popover.apiMethod.toList)
    (hexpression : popover.expression ≠ "") :
    decode (encode popover) =
      .ok { popover with
        extra := if popover.extra.nesting ≤ 127 then popover.extra else .object [] } := by
  unfold decode
  rw [toList_encode, split?_append _ hcolon _ (colon_not_mem_encode _)]
  . simp only [String.ofList_toList]
    rw [decodeExtra_encode hextra]
  . rwa [ne_eq, String.toList_eq_nil_iff]
  . rwa [ne_eq, String.toList_eq_nil_iff]

theorem decode_encode_of_no_extra {apiMethod expression : String} (hmethod : apiMethod ≠ "")
    (hcolon : ':' ∉ apiMethod.toList) (hexpression : expression ≠ "") :
    decode (encode ⟨apiMethod, expression, .object []⟩) =
      .ok ⟨apiMethod, expression, .object []⟩ := by
  have hextra : (Json.object []).Exact := .object List.nodup_nil nofun
  exact decode_encode hextra hmethod hcolon hexpression

theorem of_decode {s : String} {popover : Popover} (h : decode s = .ok popover) :
    popover.apiMethod ≠ "" ∧ ':' ∉ popover.apiMethod.toList ∧ popover.expression ≠ "" := by
  unfold decode at h
  split at h
  . next apiMethod expression extra hsplit =>
    obtain ⟨-, hmethod, hcolon, hexpression, -⟩ := split?_eq_some_iff.1 hsplit
    obtain rfl := Except.ok.inj h
    refine ⟨?_, ?_, ?_⟩
    . rwa [ne_eq, ← String.toList_eq_nil_iff, String.toList_ofList]
    . rwa [String.toList_ofList]
    . rwa [ne_eq, ← String.toList_eq_nil_iff, String.toList_ofList]
  . contradiction

theorem split?_colon (cs : List Char) : split? (':' :: cs) = none := by
  unfold split?
  rw [← List.nil_append (':' :: cs), Text.cutFirst?_append List.not_mem_nil]
  simp

theorem decode_encode_eq_error {popover : Popover}
    (h : popover.apiMethod = "" ∨ popover.apiMethod.toList.head? = some ':') :
    decode (encode popover) = .error ⟨encode popover⟩ := by
  have hcolon : ∃ cs, (encode popover).toList = ':' :: cs := by
    rw [toList_encode]
    cases h with
    | inl hmethod =>
      rw [hmethod]
      exact ⟨_, rfl⟩
    | inr hhead =>
      obtain ⟨cs, hcs⟩ := List.head?_eq_some_iff.1 hhead
      rw [hcs]
      exact ⟨_, rfl⟩
  obtain ⟨cs, hcs⟩ := hcolon
  unfold decode
  rw [hcs, split?_colon]

/--
A colon in the API method is read as the end of the API method.
-/
theorem encode_colon (before after expression : String) (extra : Json) :
    encode ⟨before ++ ":" ++ after, expression, extra⟩ =
      encode ⟨before, after ++ ":" ++ expression, extra⟩ := by
  unfold encode
  simp only [String.append_assoc]

theorem exists_decode_encode_iff {apiMethod expression : String} (hexpression : expression ≠ "") :
    (∃ popover, decode (encode ⟨apiMethod, expression, .object []⟩) = .ok popover) ↔
      apiMethod ≠ "" ∧ apiMethod.toList.head? ≠ some ':' := by
  constructor
  . rintro ⟨popover, hdecode⟩
    rw [← not_or]
    intro h
    rw [decode_encode_eq_error h] at hdecode
    contradiction
  . rintro ⟨hmethod, hhead⟩
    by_cases hcolon : ':' ∈ apiMethod.toList
    . obtain ⟨before, after, hsplit, hbefore⟩ := List.eq_append_cons_of_mem hcolon
      have hne : before ≠ [] := by
        rintro rfl
        rw [hsplit] at hhead
        exact hhead rfl
      have hapi : apiMethod = String.ofList before ++ ":" ++ String.ofList after := by
        rw [← String.toList_inj, hsplit]
        simp
      rw [hapi, encode_colon]
      refine ⟨_, decode_encode_of_no_extra ?_ ?_ ?_⟩
      . rwa [ne_eq, ← String.toList_eq_nil_iff, String.toList_ofList]
      . rwa [String.toList_ofList]
      . simp
    . exact ⟨_, decode_encode_of_no_extra hmethod hcolon hexpression⟩

/--
A popover comes back out of its parameter just if it has an API method without a colon and an
expression. Its extra parameters come back with it if they are not nested too deeply.
-/
theorem decode_encode_iff (popover : Popover) (hextra : popover.extra.Exact) :
    ((∃ extra, decode (encode popover) = .ok { popover with extra }) ↔
      popover.apiMethod ≠ "" ∧ ':' ∉ popover.apiMethod.toList ∧ popover.expression ≠ "") ∧
    (popover.apiMethod ≠ "" → ':' ∉ popover.apiMethod.toList → popover.expression ≠ "" →
      decode (encode popover) =
        .ok { popover with
          extra := if popover.extra.nesting ≤ 127 then popover.extra else .object [] }) := by
  constructor
  . constructor
    . rintro ⟨extra, h⟩
      have hparts := of_decode h
      exact hparts
    . rintro ⟨hmethod, hcolon, hexpression⟩
      exact ⟨_, decode_encode hextra hmethod hcolon hexpression⟩
  . exact decode_encode hextra

theorem decode_encode_iff_colons :
    let popover : Popover := {
      apiMethod := "Referrers.getWebsites"
      expression := ":referrerUrl=@http://a:"
      extra := .object [
        ("column", .string "\"caf\u00e9\"\n\x01"),
        ("ids", .array [.number (.integer ⟨-5, by decide, by decide⟩), .null])]
    }
    popover.extra.Exact ∧ decode (encode popover) = .ok popover := by
  intro popover
  have hextra : popover.extra.Exact := by
    apply Json.Exact.object (by decide)
    rw [List.forall_mem_cons, List.forall_mem_singleton]
    refine ⟨.string _, .array ?_⟩
    rw [List.forall_mem_cons, List.forall_mem_singleton]
    exact ⟨.integer _, .null⟩
  exact ⟨hextra, (decode_encode_iff popover hextra).2 (by decide) (by decide) (by decide)⟩

end Popover
end ReportSegments
