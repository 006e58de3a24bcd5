import ReportSegments.Json.Printer
import ReportSegments.Json.Strict
import ReportSegments.Proofs.Json.Scan
import ReportSegments.Proofs.Text.Encode

/-!
This module contains that a written string is one lexeme, and that its characters are read back out
of their escapes.
-/

namespace ReportSegments
namespace Json

open Text (CodeUnit hexNumber? smallHexDigit)

/--
The three ways to write a character: as it is, behind a backslash, and as a number.
-/
theorem escapeChar_cases (c : Char) :
    (escapeChar c = [c] ∧ c ≠ '"' ∧ c ≠ '\\' ∧ ¬c.toNat < 0x20) ∨
      (∃ e, escapeChar c = ['\\', e] ∧ e ≠ 'u' ∧ Strict.escape? e = some c) ∨
      (escapeChar c =
        ['\\', 'u', '0', '0', smallHexDigit (c.toNat / 16), smallHexDigit (c.toNat % 16)] ∧
        c.toNat < 0x20) := by
  fun_cases escapeChar c
  case case8 hcontrol => exact .inr (.inr ⟨rfl, hcontrol⟩)
  case case9 hquote hslash _ _ _ _ _ hcontrol => exact .inl ⟨rfl, hquote, hslash, hcontrol⟩
  all_goals
    subst_vars
    exact .inr (.inl ⟨_, rfl, by decide, rfl⟩)

theorem smallHexDigit_ne : ∀ n < 16, smallHexDigit n ≠ '"' ∧ smallHexDigit n ≠ '\\' := by
  decide

namespace Dialect

variable {d : Dialect} {c : Char} {reversed rest : List Char}

theorem lexemesFrom?_quoted (hquote : c ≠ '"') (hslash : c ≠ '\\') (reversed cs : List Char) :
    d.lexemesFrom? (.quoted '"' reversed) (c :: cs) =
      d.lexemesFrom? (.quoted '"' (c :: reversed)) cs := by
  apply lexemesFrom?_of_silent
  rw [scanChar?, if_neg hquote, if_neg hslash]

theorem lexemesFrom?_backslash (c : Char) (reversed cs : List Char) :
    d.lexemesFrom? (.quoted '"' reversed) ('\\' :: c :: cs) =
      d.lexemesFrom? (.quoted '"' (c :: '\\' :: reversed)) cs := by
  have hslash : d.scanChar? '\\' (.quoted '"' reversed) =
      some ([], .escaped '"' ('\\' :: reversed)) := rfl
  rw [lexemesFrom?_of_silent hslash]
  exact lexemesFrom?_of_silent rfl _

theorem lexemesFrom?_escapeChar (c : Char) (reversed cs : List Char) :
    d.lexemesFrom? (.quoted '"' reversed) (escapeChar c ++ cs) =
      d.lexemesFrom? (.quoted '"' ((escapeChar c).reverse ++ reversed)) cs := by
  rcases escapeChar_cases c with ⟨heq, hquote, hslash, -⟩ | ⟨e, heq, -, -⟩ | ⟨heq, hcontrol⟩
  . rw [heq]
    exact lexemesFrom?_quoted hquote hslash reversed cs
  . rw [heq]
    exact lexemesFrom?_backslash e reversed cs
  . rw [heq]
    obtain ⟨hhigh, hhigh'⟩ := smallHexDigit_ne (c.toNat / 16) (by omega)
    obtain ⟨hlow, hlow'⟩ := smallHexDigit_ne (c.toNat % 16) (by omega)
    simp only [List.cons_append, List.nil_append]
    rw [lexemesFrom?_backslash, lexemesFrom?_quoted (by decide) (by decide),
      lexemesFrom?_quoted (by decide) (by decide), lexemesFrom?_quoted hhigh hhigh',
      lexemesFrom?_quoted hlow hlow']
    rfl

theorem lexemesFrom?_flatMap_escapeChar (s reversed cs : List Char) :
    d.lexemesFrom? (.quoted '"' reversed) (s.flatMap escapeChar ++ cs) =
      d.lexemesFrom? (.quoted '"' ((s.flatMap escapeChar).reverse ++ reversed)) cs := by
  induction s generalizing reversed with
  | nil => rfl
  | cons c s ih =>
    rw [List.flatMap_cons, List.append_assoc, lexemesFrom?_escapeChar, ih, List.reverse_append,
      List.append_assoc]

theorem scans_quote (hquote : d.isQuote '"' = true) (s : String) :
    d.Scans (quote s) [.quoted (s.toList.flatMap escapeChar)] := by
  intro rest _
  have hopen : d.scanChar? '"' .between = some ([], .quoted '"' []) := by
    simp [scanChar?, start, isMark, hquote]
  rw [quote, List.cons_append, List.cons_append, List.append_assoc, lexemesFrom?_of_silent hopen,
    lexemesFrom?_flatMap_escapeChar, List.append_nil, List.singleton_append, lexemesFrom?_cons,
    scanChar?, if_pos rfl, Option.bind_some, List.reverse_reverse]

end Dialect

namespace Strict

theorem units?_plain {c : Char} (hslash : c ≠ '\\') (hcontrol : ¬c.toNat < 0x20) (cs : List Char) :
    units? (c :: cs) = (units? cs).map (.char c :: ·) := by
  rw [units?]
  . rw [if_neg]
    simp [hslash, hcontrol]
  . intro a b c d rest h
    exact absurd h hslash
  . intro c rest h
    exact absurd h hslash

theorem units?_escape {e c : Char} (hu : e ≠ 'u') (he : escape? e = some c) (cs : List Char) :
    units? ('\\' :: e :: cs) = (units? cs).map (.char c :: ·) := by
  rw [units?]
  . rw [he, Option.map_eq_bind]
    rfl
  . intro a b c d rest h
    exact absurd h hu

theorem units?_numeric {n : Nat} {a b c d : Char} (h : hexNumber? [a, b, c, d] = some n)
    (cs : List Char) :
    units? ('\\' :: 'u' :: a :: b :: c :: d :: cs) = (units? cs).map (.unit n :: ·) := by
  rw [units?, h, Option.map_eq_bind]
  rfl

theorem hexNumber?_control : ∀ n < 0x20,
    hexNumber? ['0', '0', smallHexDigit (n / 16), smallHexDigit (n % 16)] = some n := by
  decide

theorem chars?_unit {n : Nat} (hn : n < 0x20) (units : List CodeUnit) :
    CodeUnit.chars? (.unit n :: units) = (CodeUnit.chars? units).map (Char.ofNat n :: ·) := by
  have hhigh : CodeUnit.isHigh n = false := by
    simp [CodeUnit.isHigh]
    omega
  have hlow : CodeUnit.isLow n = false := by
    simp [CodeUnit.isLow]
    omega
  cases units with
  | nil => simp [CodeUnit.chars?, hhigh, hlow]
  | cons unit units => cases unit <;> simp [CodeUnit.chars?, hhigh, hlow]

theorem exists_units? (s : List Char) :
    ∃ units, units? (s.flatMap escapeChar) = some units ∧ CodeUnit.chars? units = some s := by
  induction s with
  | nil => exact ⟨[], rfl, rfl⟩
  | cons c s ih =>
    obtain ⟨units, hunits, hchars⟩ := ih
    rw [List.flatMap_cons]
    rcases escapeChar_cases c with ⟨heq, -, hslash, hcontrol⟩ | ⟨e, heq, hu, he⟩ | ⟨heq, hcontrol⟩
    . refine ⟨.char c :: units, ?_, ?_⟩
      . rw [heq, List.singleton_append, units?_plain hslash hcontrol, hunits]
        rfl
      . rw [CodeUnit.chars?, hchars]
        rfl
    . refine ⟨.char c :: units, ?_, ?_⟩
      . rw [heq, List.cons_append, List.singleton_append, units?_escape hu he, hunits]
        rfl
      . rw [CodeUnit.chars?, hchars]
        rfl
    . refine ⟨.unit c.toNat :: units, ?_, ?_⟩
      . rw [heq]
        simp only [List.cons_append, List.nil_append]
        rw [units?_numeric (hexNumber?_control c.toNat hcontrol), hunits]
        rfl
      . rw [chars?_unit hcontrol, hchars, Char.ofNat_toNat]
        rfl

end Strict

theorem readQuoted?_flatMap_escapeChar (limit : Option Nat) (s : String) :
    (Dialect.strict limit).readQuoted? (s.toList.flatMap escapeChar) = some (some s) := by
  obtain ⟨units, hunits, hchars⟩ := Strict.exists_units? s.toList
  simp [Dialect.strict, hunits, hchars]

end Json
end ReportSegments
