import ReportSegments.Proofs.Json.Quoted

/-!
This module contains the lexemes of written values. The values are those that come back when they
are read: numbers are integers, and in an object each name is there once.
-/

namespace ReportSegments
namespace Json

inductive Exact : Json → Prop where
  | null : Exact null
  | bool (b : Bool) : Exact (bool b)
  | integer (n : Integer) : Exact (number (.integer n))
  | string (s : String) : Exact (string s)
  | array {items : List Json} (hitems : ∀ item ∈ items, Exact item) : Exact (array items)
  | object {members : List (String × Json)} (hnames : (members.map Prod.fst).Nodup)
    (hvalues : ∀ member ∈ members, Exact member.2) : Exact (object members)

mutual

/--
The lexemes of a value, however it is laid out.
-/
def lexemes : Json → List Lexeme
  | null => [.word ['n', 'u', 'l', 'l']]
  | bool true => [.word ['t', 'r', 'u', 'e']]
  | bool false => [.word ['f', 'a', 'l', 's', 'e']]
  | number n => [.word n.text]
  | string s => [.quoted (s.toList.flatMap escapeChar)]
  | array items => .mark '[' :: [.mark ','].intercalate (itemLexemes items) ++ [.mark ']']
  | object members => .mark '{' :: [.mark ','].intercalate (memberLexemes members) ++ [.mark '}']

def itemLexemes : List Json → List (List Lexeme)
  | [] => []
  | item :: items => lexemes item :: itemLexemes items

def memberLexemes : List (String × Json) → List (List Lexeme)
  | [] => []
  | (name, value) :: members =>
    (.quoted (name.toList.flatMap escapeChar) :: .mark ':' :: lexemes value) ::
      memberLexemes members

end

open Dialect

theorem isWordChar_strict (limit : Option Nat) {c : Char}
    (hc : (c.isAlphanum || c = '-') = true) : (strict limit).isWordChar c = true := by
  have hne : ∀ other : Char, (other.isAlphanum || other = '-') = false → c ≠ other := by
    rintro other hother rfl
    rw [hc] at hother
    contradiction
  simp [isWordChar, isMark, strict, hne ' ' (by decide), hne '\t' (by decide),
    hne '\n' (by decide), hne '\r' (by decide), hne '{' (by decide), hne '}' (by decide),
    hne '[' (by decide), hne ']' (by decide), hne ',' (by decide), hne ':' (by decide),
    hne '"' (by decide)]

theorem isWordChar_of_mem_text (limit : Option Nat) {n : Integer} {c : Char} (hc : c ∈ n.text) :
    (strict limit).isWordChar c = true := by
  apply isWordChar_strict
  have hdigit : ∀ k, c ∈ Nat.toDigits 10 k → (c.isAlphanum || c = '-') = true := by
    intro k hmem
    have := Nat.isDigit_of_mem_toDigits (by decide) (by decide) hmem
    simp [Char.isAlphanum, this]
  unfold Integer.text at hc
  split at hc
  . exact hdigit _ hc
  . rcases List.mem_cons.1 hc with rfl | hmem
    . rfl
    . exact hdigit _ hmem

theorem text_ne_nil (n : Integer) : n.text ≠ [] := by
  unfold Integer.text
  split
  . exact Nat.toDigits_ne_nil
  . exact List.cons_ne_nil _ _

variable {limit : Option Nat}

theorem scans_letters {cs : List Char} (hne : cs ≠ []) (h : cs.all Char.isAlphanum = true) :
    (strict limit).Scans cs [.word cs] := by
  apply scans_word hne
  intro c hc
  apply isWordChar_strict
  rw [List.all_eq_true.1 h c hc]
  rfl

theorem scans_items {text : Json → List Char} {items : List Json}
    (h : ∀ item ∈ items, (strict limit).Scans (text item) item.lexemes) :
    List.Forall₂ (strict limit).Scans (items.map text) (itemLexemes items) := by
  induction items with
  | nil => exact .nil
  | cons item items ih =>
    obtain ⟨hitem, hitems⟩ := List.forall_mem_cons.1 h
    exact .cons hitem (ih hitems)

theorem scans_members (text : Json → List Char) {members : List (String × Json)}
    (h : ∀ member ∈ members, (strict limit).Scans (text member.2) member.2.lexemes) :
    List.Forall₂ (strict limit).Scans
      (members.map fun (name, value) => quote name ++ ':' :: text value)
      (memberLexemes members) := by
  induction members with
  | nil => exact .nil
  | cons member members ih =>
    obtain ⟨hmember, hmembers⟩ := List.forall_mem_cons.1 h
    exact .cons ((scans_quote rfl member.1).append_mark rfl hmember) (ih hmembers)

theorem compactItems_eq_map (items : List Json) : compactItems items = items.map compactChars := by
  induction items with
  | nil => simp [compactItems]
  | cons item items ih => simp [compactItems, ih]

theorem compactMembers_eq_map (members : List (String × Json)) :
    compactMembers members =
      members.map fun (name, value) => quote name ++ ':' :: compactChars value := by
  induction members with
  | nil => simp [compactMembers]
  | cons member members ih => simp [compactMembers, ih]

/--
The compact form of a value has the lexemes of the value.
-/
theorem Exact.scans_compactChars {value : Json} (h : value.Exact) :
    (strict limit).Scans value.compactChars value.lexemes := by
  induction h with
  | null => exact scans_letters (List.cons_ne_nil _ _) rfl
  | bool b => cases b <;> exact scans_letters (List.cons_ne_nil _ _) rfl
  | integer n => exact scans_word (text_ne_nil n) fun c => isWordChar_of_mem_text limit
  | string s => exact scans_quote rfl s
  | array _ ih =>
    rw [compactChars, compactItems_eq_map]
    apply Scans.mark_cons rfl
    exact (Scans.intercalate (by simp) (scans_items ih)).append_mark rfl .nil
  | object _ _ ih =>
    rw [compactChars, compactMembers_eq_map]
    apply Scans.mark_cons rfl
    exact (Scans.intercalate (by simp) (scans_members compactChars ih)).append_mark rfl .nil

end Json
end ReportSegments
