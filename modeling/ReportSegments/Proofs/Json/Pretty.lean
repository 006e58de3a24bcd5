import ReportSegments.Proofs.Json.Written

/-!
This module contains that the pretty form of a value has the lexemes of the value: what it has more
than the compact form separates lexemes.
-/

namespace ReportSegments
namespace Json

open Dialect

variable {limit : Option Nat}

theorem separates_newline (depth : Nat) : ∀ c ∈ newline depth, (strict limit).Separates c := by
  intro c hc
  rw [newline, List.mem_cons, List.mem_replicate] at hc
  rcases hc with rfl | ⟨-, rfl⟩ <;> rfl

theorem scans_bracketed {opening closing : Char} (hopening : isMark opening = true)
    (hclosing : isMark closing = true) (depth : Nat) {texts : List (List Char)}
    {parts : List (List Lexeme)} (h : List.Forall₂ (strict limit).Scans texts parts) :
    (strict limit).Scans (bracketed opening closing depth texts)
      (.mark opening :: [.mark ','].intercalate parts ++ [.mark closing]) := by
  have hinner := Scans.intercalate (separates_newline (depth + 1)) h
  have hclose := Scans.mark_cons (d := strict limit) hclosing .nil
  cases h with
  | nil => exact hclose.mark_cons hopening
  | cons hfirst hrest =>
    unfold bracketed
    rw [List.append_assoc, List.append_assoc, List.cons_append, List.cons_append]
    apply Scans.mark_cons hopening
    apply Scans.append_left (separates_newline (depth + 1))
    rw [← List.append_assoc]
    apply Scans.append_mark _ hclosing .nil
    exact hinner.append_right (separates_newline depth)

theorem prettyItems_eq_map (depth : Nat) (items : List Json) :
    prettyItems depth items = items.map (prettyChars depth) := by
  induction items with
  | nil => simp [prettyItems]
  | cons item items ih => simp [prettyItems, ih]

theorem prettyMembers_eq_map (depth : Nat) (members : List (String × Json)) :
    prettyMembers depth members =
      members.map fun (name, value) => quote name ++ ':' :: ' ' :: prettyChars depth value := by
  induction members with
  | nil => simp [prettyMembers]
  | cons member members ih => simp [prettyMembers, ih]

/--
The pretty form of a value has the lexemes of the value, at any depth.
-/
theorem Exact.scans_prettyChars {value : Json} (h : value.Exact) (depth : Nat) :
    (strict limit).Scans (value.prettyChars depth) value.lexemes := by
  induction h generalizing depth with
  | array _ ih =>
    rw [prettyChars, prettyItems_eq_map]
    apply scans_bracketed rfl rfl
    apply scans_items
    intro item hitem
    exact ih item hitem (depth + 1)
  | object _ _ ih =>
    rw [prettyChars, prettyMembers_eq_map]
    apply scans_bracketed rfl rfl
    apply scans_members fun value => ' ' :: prettyChars (depth + 1) value
    intro member hmember
    have hblank : ∀ c ∈ [' '], (strict limit).Separates c := by
      simp [Separates, start, isMark, strict]
    exact (ih member hmember (depth + 1)).append_left hblank
  | bool b =>
    have hcompact : (strict limit).Scans (compactChars (.bool b)) (lexemes (.bool b)) :=
      (Exact.bool b).scans_compactChars
    cases b <;> exact hcompact
  | null => exact Exact.null.scans_compactChars
  | integer n => exact (Exact.integer n).scans_compactChars
  | string s => exact (Exact.string s).scans_compactChars

end Json
end ReportSegments
