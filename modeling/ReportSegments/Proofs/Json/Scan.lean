import Mathlib.Data.List.Forall2
import ReportSegments.Json.Dialect

/-!
This module contains how the lexemes of a text come from those of its parts. A part has lexemes of
its own if no word goes on behind it.
-/

namespace ReportSegments
namespace Json
namespace Dialect

variable {d : Dialect} {c : Char} {cs rest : List Char} {lexemes : List Lexeme}

/--
Whether a word that stands in front of a text is complete.
-/
def endsWord (d : Dialect) : List Char → Bool
  | [] => true
  | c :: _ => !d.isWordChar c

/--
A text that has these lexemes in front of every text that completes a word.
-/
def Scans (d : Dialect) (cs : List Char) (lexemes : List Lexeme) : Prop :=
  ∀ rest, d.endsWord rest = true →
    d.lexemesFrom? .between (cs ++ rest) = (d.lexemesFrom? .between rest).map (lexemes ++ ·)

theorem lexemesFrom?_cons (d : Dialect) (scan : Scan) (c : Char) (cs : List Char) :
    d.lexemesFrom? scan (c :: cs) =
      (d.scanChar? c scan).bind fun (lexemes, next) =>
        (d.lexemesFrom? next cs).map (lexemes ++ ·) := by
  rw [lexemesFrom?]
  cases d.scanChar? c scan with
  | none => rfl
  | some step =>
    dsimp only [Option.bind_some]
    rw [Option.map_eq_bind]
    rfl

theorem lexemesFrom?_of_silent {scan next : Scan} (h : d.scanChar? c scan = some ([], next))
    (cs : List Char) : d.lexemesFrom? scan (c :: cs) = d.lexemesFrom? next cs := by
  rw [lexemesFrom?_cons, h]
  exact Option.map_id_apply

theorem start_of_isMark (hc : isMark c = true) : d.start c = ([.mark c], .between) := by
  unfold start
  rw [if_pos hc]

theorem start_of_isWordChar (hc : d.isWordChar c = true) : d.start c = ([], .word [c]) := by
  unfold isWordChar at hc
  simp only [Bool.not_eq_true', Bool.or_eq_false_iff] at hc
  obtain ⟨⟨⟨hblank, hmark⟩, hquote⟩, hslash⟩ := hc
  simp [start, hblank, hmark, hquote, hslash]

theorem isWordChar_of_isMark (hc : isMark c = true) : d.isWordChar c = false := by
  simp [isWordChar, hc]

theorem lexemesFrom?_mark (hc : isMark c = true) (cs : List Char) :
    d.lexemesFrom? .between (c :: cs) = (d.lexemesFrom? .between cs).map (.mark c :: ·) := by
  rw [lexemesFrom?_cons, scanChar?, start_of_isMark hc]
  rfl

theorem endsWord_mark (hc : isMark c = true) (cs : List Char) : d.endsWord (c :: cs) = true := by
  rw [endsWord, isWordChar_of_isMark hc]
  rfl

theorem Scans.nil : d.Scans [] [] := by
  intro rest _
  exact Option.map_id_apply.symm

theorem Scans.mark_cons (hc : isMark c = true) (h : d.Scans cs lexemes) :
    d.Scans (c :: cs) (.mark c :: lexemes) := by
  intro rest hrest
  rw [List.cons_append, lexemesFrom?_mark hc, h rest hrest, Option.map_map]
  rfl

theorem Scans.append_mark {front : List Char} {first : List Lexeme} (hfront : d.Scans front first)
    (hc : isMark c = true) (h : d.Scans cs lexemes) :
    d.Scans (front ++ c :: cs) (first ++ .mark c :: lexemes) := by
  intro rest hrest
  rw [List.append_assoc, List.cons_append, hfront _ (endsWord_mark hc _), ← List.cons_append,
    Scans.mark_cons hc h rest hrest, Option.map_map]
  congr 1
  funext lexemes
  exact (List.append_assoc _ _ _).symm

/--
Whether a character may stand between lexemes.
-/
def Separates (d : Dialect) (c : Char) : Prop :=
  d.start c = ([], .between)

theorem Separates.isWordChar (hc : d.Separates c) : d.isWordChar c = false := by
  rw [Bool.eq_false_iff]
  intro hword
  unfold Separates at hc
  simp [start_of_isWordChar hword] at hc

theorem Separates.lexemesFrom? (hc : d.Separates c) (cs : List Char) :
    d.lexemesFrom? .between (c :: cs) = d.lexemesFrom? .between cs := by
  apply lexemesFrom?_of_silent
  rw [scanChar?, hc]

theorem Scans.append_left {blanks : List Char} (hblanks : ∀ c ∈ blanks, d.Separates c)
    (h : d.Scans cs lexemes) : d.Scans (blanks ++ cs) lexemes := by
  induction blanks with
  | nil => exact h
  | cons c blanks ih =>
    obtain ⟨hc, hblanks⟩ := List.forall_mem_cons.1 hblanks
    intro rest hrest
    rw [List.cons_append, List.cons_append, hc.lexemesFrom?]
    exact ih hblanks rest hrest

theorem Scans.append_right {blanks : List Char} (hblanks : ∀ c ∈ blanks, d.Separates c)
    (h : d.Scans cs lexemes) : d.Scans (cs ++ blanks) lexemes := by
  intro rest hrest
  rw [List.append_assoc, h]
  . congr 1
    have hnone : d.Scans blanks [] := by
      simpa using Scans.append_left hblanks Scans.nil
    simpa using hnone rest hrest
  . cases blanks with
    | nil => exact hrest
    | cons c blanks => simp [endsWord, (hblanks c List.mem_cons_self).isWordChar]

theorem Scans.intercalate {blanks : List Char} (hblanks : ∀ c ∈ blanks, d.Separates c)
    {texts : List (List Char)} {lexemes : List (List Lexeme)}
    (h : List.Forall₂ d.Scans texts lexemes) :
    d.Scans ((',' :: blanks).intercalate texts) ([.mark ','].intercalate lexemes) := by
  induction h with
  | nil => exact .nil
  | cons hfirst hrest ih =>
    cases hrest with
    | nil =>
      rw [List.intercalate_singleton, List.intercalate_singleton]
      exact hfirst
    | cons =>
      rw [List.intercalate_cons_cons, List.intercalate_cons_cons, List.append_assoc,
        List.append_assoc]
      exact hfirst.append_mark rfl (ih.append_left hblanks)

theorem lexemesFrom?_word (reversed : List Char) (hcs : ∀ c ∈ cs, d.isWordChar c = true)
    (hrest : d.endsWord rest = true) :
    d.lexemesFrom? (.word reversed) (cs ++ rest) =
      (d.lexemesFrom? .between rest).map (.word (reversed.reverse ++ cs) :: ·) := by
  induction cs generalizing reversed with
  | nil =>
    rw [List.nil_append, List.append_nil]
    cases rest with
    | nil => rfl
    | cons c rest =>
      rw [endsWord, Bool.not_eq_true'] at hrest
      rw [lexemesFrom?_cons, lexemesFrom?_cons, scanChar?, scanChar?, hrest]
      simp only [Bool.false_eq_true, if_false, Option.bind_some, Option.map_map]
      rfl
  | cons c cs ih =>
    obtain ⟨hc, hcs⟩ := List.forall_mem_cons.1 hcs
    have hstep : d.scanChar? c (.word reversed) = some ([], .word (c :: reversed)) := by
      rw [scanChar?, if_pos hc]
    rw [List.cons_append, lexemesFrom?_of_silent hstep, ih _ hcs, List.reverse_cons,
      List.append_assoc]
    rfl

theorem scans_word (hne : cs ≠ []) (h : ∀ c ∈ cs, d.isWordChar c = true) :
    d.Scans cs [.word cs] := by
  intro rest hrest
  obtain ⟨c, cs, rfl⟩ := List.exists_cons_of_ne_nil hne
  obtain ⟨hc, hcs⟩ := List.forall_mem_cons.1 h
  have hstep : d.scanChar? c .between = some ([], .word [c]) := by
    rw [scanChar?, start_of_isWordChar hc]
  rw [List.cons_append, lexemesFrom?_of_silent hstep, lexemesFrom?_word [c] hcs hrest]
  rfl

theorem Scans.lexemes?_eq (h : d.Scans cs lexemes) : d.lexemes? cs = some lexemes := by
  have hall := h [] rfl
  rw [List.append_nil] at hall
  rw [lexemes?, hall]
  simp [lexemesFrom?]

end Dialect
end Json
end ReportSegments
