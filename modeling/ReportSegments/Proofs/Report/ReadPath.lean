import Mathlib.Data.List.Forall2
import Mathlib.Data.Nat.Digits.Defs
import ReportSegments.Proofs.Report.PathText

/-!
This module contains which texts are read as paths: between the slashes there are indices, each with
a number that fits a word of 64 bits. A path that is read is also read from its own text.
-/

namespace ReportSegments

open Text (isBlank trim)

section MapM

variable {f : α → Option β} {x : α} {xs : List α}

theorem mapM_cons_eq_some_iff {ys : List β} :
    (x :: xs).mapM f = some ys ↔
      ∃ y rest, f x = some y ∧ xs.mapM f = some rest ∧ y :: rest = ys := by
  rw [List.mapM_cons]
  cases f x with
  | none => simp
  | some y => cases xs.mapM f <;> simp

theorem mapM_eq_some_iff_forall₂ {ys : List β} :
    xs.mapM f = some ys ↔ List.Forall₂ (fun x y => f x = some y) xs ys := by
  induction xs generalizing ys with
  | nil => cases ys <;> simp
  | cons x xs ih =>
    rw [mapM_cons_eq_some_iff, List.forall₂_cons_left_iff]
    simp only [ih, eq_comm]

theorem mapM_eq_none_iff : xs.mapM f = none ↔ ∃ x ∈ xs, f x = none := by
  induction xs with
  | nil => simp
  | cons x xs ih =>
    rw [List.mapM_cons, List.exists_mem_cons_iff, ← ih]
    cases f x with
    | none => simp
    | some y => cases xs.mapM f <;> simp

end MapM

namespace Row

/--
The number that decimal digits stand for, the last one being the digit of the ones.
-/
def decimal (digits : List Char) : Nat :=
  Nat.ofDigits 10 (digits.reverse.map fun c => c.toNat - 48)

/--
How an index may be written: decimal digits, zeros in front too, with a `+` or without, and blanks
around all of it.
-/
structure SpellsIndex (part : List Char) (i : Nat) : Prop where
  exists_digits : ∃ front sign digits back,
    part = front ++ (sign ++ digits ++ back) ∧ (∀ c ∈ front, isBlank c = true) ∧
      (sign = [] ∨ sign = ['+']) ∧ digits ≠ [] ∧ (∀ c ∈ digits, c.isDigit = true) ∧
      (∀ c ∈ back, isBlank c = true) ∧ decimal digits = i
  lt : i < 18446744073709551616

/--
What is left of a text without the blanks around it and without a `+` in front.
-/
def IsUnsigned (part rest : List Char) : Prop :=
  trim part = '+' :: rest ∨ trim part = rest ∧ rest.head? ≠ some '+'

/--
What is no index: there is nothing in it, something other than a digit, or a number that is too
large.
-/
def IsNoIndex (part : List Char) : Prop :=
  ∃ rest, IsUnsigned part rest ∧
    (rest = [] ∨ (∃ c ∈ rest, c.isDigit = false) ∨ 18446744073709551616 ≤ decimal rest)

theorem ofDigitChars_eq_decimal (digits : List Char) :
    Nat.ofDigitChars 10 digits 0 = decimal digits := by
  unfold decimal
  rw [Nat.ofDigits_eq_foldr, List.map_reverse, List.foldr_reverse, List.foldl_map,
    Nat.ofDigitChars_eq_foldl]
  simp [Nat.add_comm]

theorem exists_isUnsigned (part : List Char) : ∃ rest, IsUnsigned part rest := by
  by_cases hsign : (trim part).head? = some '+'
  . obtain ⟨rest, hrest⟩ := List.head?_eq_some_iff.1 hsign
    exact ⟨rest, .inl hrest⟩
  . exact ⟨trim part, .inr ⟨rfl, hsign⟩⟩

theorem IsUnsigned.readIndex?_eq {part rest : List Char} (h : IsUnsigned part rest) :
    readIndex? part =
      if rest ≠ [] ∧ rest.all Char.isDigit ∧ decimal rest < 18446744073709551616 then
        some (decimal rest)
      else
        none := by
  rw [← ofDigitChars_eq_decimal]
  unfold readIndex?
  rcases h with h | ⟨h, hhead⟩
  . rw [h]
    rfl
  . rw [h]
    dsimp only
    split
    . exact absurd rfl hhead
    . rfl

theorem spellsIndex_iff {part : List Char} {i : Nat} :
    SpellsIndex part i ↔
      ∃ digits, IsUnsigned part digits ∧ digits ≠ [] ∧ (∀ c ∈ digits, c.isDigit = true) ∧
        decimal digits = i ∧ i < 18446744073709551616 := by
  constructor
  . rintro ⟨⟨front, sign, digits, back, rfl, hfront, hsign, hne, hdigits, hback, hi⟩, hlt⟩
    refine ⟨digits, ?_, hne, hdigits, hi, hlt⟩
    have hblank : ∀ c ∈ sign ++ digits, isBlank c = false := by
      intro c hc
      rcases List.mem_append.1 hc with hc | hc
      . have hplus : c = '+' := by
          rcases hsign with rfl | rfl
          . contradiction
          . exact List.mem_singleton.1 hc
        rw [hplus]
        rfl
      . exact Text.isBlank_of_isDigit (hdigits c hc)
    unfold IsUnsigned
    rw [Text.trim_append_blanks hfront hblank hback]
    rcases hsign with rfl | rfl
    . refine .inr ⟨rfl, ?_⟩
      intro hhead
      have := hdigits '+' (List.mem_of_head? hhead)
      contradiction
    . exact .inl rfl
  . rintro ⟨digits, hunsigned, hne, hdigits, hi, hlt⟩
    obtain ⟨front, back, hpart, hfront, hback⟩ := Text.exists_eq_append_trim part
    rcases hunsigned with htrim | ⟨htrim, -⟩
    . rw [htrim] at hpart
      exact ⟨⟨front, ['+'], digits, back, hpart, hfront, .inr rfl, hne, hdigits, hback, hi⟩, hlt⟩
    . rw [htrim] at hpart
      exact ⟨⟨front, [], digits, back, hpart, hfront, .inl rfl, hne, hdigits, hback, hi⟩, hlt⟩

theorem readIndex?_eq_some_iff {part : List Char} {i : Nat} :
    readIndex? part = some i ↔ SpellsIndex part i := by
  rw [spellsIndex_iff]
  constructor
  . intro hread
    obtain ⟨rest, hrest⟩ := exists_isUnsigned part
    rw [hrest.readIndex?_eq] at hread
    split at hread
    . next hindex =>
      obtain ⟨hne, hdigits, hlt⟩ := hindex
      obtain rfl := Option.some.inj hread
      exact ⟨rest, hrest, hne, List.all_eq_true.1 hdigits, rfl, hlt⟩
    . contradiction
  . rintro ⟨digits, hunsigned, hne, hdigits, rfl, hlt⟩
    rw [hunsigned.readIndex?_eq, if_pos ⟨hne, List.all_eq_true.2 hdigits, hlt⟩]

theorem readIndex?_eq_none_iff {part : List Char} : readIndex? part = none ↔ IsNoIndex part := by
  constructor
  . intro hnone
    obtain ⟨rest, hrest⟩ := exists_isUnsigned part
    refine ⟨rest, hrest, ?_⟩
    rw [hrest.readIndex?_eq] at hnone
    split at hnone
    . contradiction
    . next hindex =>
      rw [not_and_or, not_and_or, not_not, List.all_eq_true, not_forall, Nat.not_lt] at hindex
      simpa using hindex
  . rintro ⟨rest, hrest, hno⟩
    rw [hrest.readIndex?_eq, if_neg]
    rintro ⟨hne, hdigits, hlt⟩
    rw [List.all_eq_true] at hdigits
    rcases hno with hnil | ⟨c, hc, hdigit⟩ | hle
    . exact hne hnil
    . rw [hdigits c hc] at hdigit
      contradiction
    . exact absurd hlt (Nat.not_lt.2 hle)

theorem readPath?_eq_mapM (s : String) :
    readPath? s = (s.toList.splitOn '/').mapM readIndex? := by
  unfold readPath?
  rw [Text.pieces_singleton]

theorem readPath?_eq_some_iff_forall₂ {s : String} {path : List Nat} :
    readPath? s = some path ↔ List.Forall₂ SpellsIndex (s.toList.splitOn '/') path := by
  rw [readPath?_eq_mapM, mapM_eq_some_iff_forall₂]
  simp only [readIndex?_eq_some_iff]

theorem ne_nil_of_readPath? {s : String} {path : List Nat} (h : readPath? s = some path) :
    path ≠ [] := by
  rintro rfl
  rw [readPath?_eq_some_iff_forall₂, List.forall₂_nil_right_iff] at h
  exact List.splitOn_ne_nil '/' s.toList h

theorem lt_of_mem_of_readPath? {s : String} {path : List Nat} (h : readPath? s = some path) :
    ∀ i ∈ path, i < 18446744073709551616 := by
  rw [readPath?_eq_some_iff_forall₂] at h
  generalize s.toList.splitOn '/' = parts at h
  induction h with
  | nil => simp
  | cons hpart _ ih => exact List.forall_mem_cons.2 ⟨hpart.lt, ih⟩

/--
A text is read as a path just if an index stands between any two slashes, whatever zeros it has in
front. Such a path is read again from the text that is written for it.
-/
theorem readPath?_indices (s : String) :
    (∀ path, readPath? s = some path ↔
      List.Forall₂ SpellsIndex (s.toList.splitOn '/') path) ∧
    (readPath? s = none ↔ ∃ part ∈ s.toList.splitOn '/', IsNoIndex part) ∧
    ∀ path, readPath? s = some path →
      readPath? (RowId.pathText (path.map .index)) = some path := by
  refine ⟨fun _ => readPath?_eq_some_iff_forall₂, ?_, ?_⟩
  . rw [readPath?_eq_mapM, mapM_eq_none_iff]
    simp only [readIndex?_eq_none_iff]
  . intro path h
    exact readPath?_pathText_index (ne_nil_of_readPath? h) (lt_of_mem_of_readPath? h)

theorem readPath?_indices_zeros :
    let s := "\u3000+00000000000000000000018446744073709551615\t/ 007"
    let path := [18446744073709551615, 7]
    readPath? s = some path ∧ RowId.pathText (path.map .index) = "18446744073709551615/7" ∧
      readPath? "18446744073709551615/7" = some path ∧
      readPath? "7/+018446744073709551616" = none := by
  intro s path
  have hread : readPath? s = some path := by decide
  have htext : RowId.pathText (path.map .index) = "18446744073709551615/7" := by decide
  have hagain := (readPath?_indices s).2.2 path hread
  rw [htext] at hagain
  refine ⟨hread, htext, hagain, (readPath?_indices "7/+018446744073709551616").2.1.2 ?_⟩
  have hlarge : IsNoIndex "+018446744073709551616".toList :=
    ⟨"018446744073709551616".toList, .inl rfl, .inr (.inr (by decide))⟩
  exact ⟨_, by decide, hlarge⟩

end Row
end ReportSegments
