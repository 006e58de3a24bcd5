import ReportSegments.Proofs.Display.Above

/-!
This module contains the way from a displayed row up to the top: it ends, because each step leads to
an earlier place, and recomposing a label puts the labels on it together.
-/

namespace ReportSegments
namespace Display

/--
Whether a place is in an earlier table, or further up in the same one.
-/
def RowRef.Before (place other : RowRef) : Prop :=
  place.table < other.table ∨ place.table = other.table ∧ place.row < other.row

theorem RowRef.Before.trans {first second third : RowRef} (h : first.Before second)
    (h' : second.Before third) : first.Before third := by
  unfold Before at *
  omega

namespace Tree

variable {tree : Tree} {place above : RowRef}

/--
The places from a row up to the top, each with the next one above it.
-/
inductive Ascent (tree : Tree) : RowRef → List RowRef → Prop where
  | top {place : RowRef} (h : ∀ above, ¬tree.IsAbove place above) : Ascent tree place [place]
  | step {place above : RowRef} {chain : List RowRef} (h : tree.IsAbove place above)
      (rest : Ascent tree above chain) : Ascent tree place (place :: chain)

theorem IsAbove.before (h : tree.IsAbove place above) : above.Before place := by
  cases h with
  | inl h =>
    obtain ⟨_, _, _, _, _, htable, hlt, _⟩ := h
    exact .inr ⟨htable, hlt⟩
  | inr h =>
    obtain ⟨table, htable, hparent⟩ := Option.bind_eq_some_iff.1 h.2
    exact .inl (tree.opened place.table table above htable hparent).1

theorem IsAbove.exists_row (h : tree.IsAbove place above) : ∃ row, tree.row? above = some row := by
  cases h with
  | inl h =>
    obtain ⟨_, _, _, _, _, _, _, ⟨row, hrow, _⟩, _⟩ := h
    exact ⟨row, hrow⟩
  | inr h =>
    obtain ⟨table, htable, hparent⟩ := Option.bind_eq_some_iff.1 h.2
    exact Option.isSome_iff_exists.1 (tree.opened place.table table above htable hparent).2

theorem IsAbove.unique {row : Row} {other : RowRef} (hrow : tree.row? place = some row)
    (h : tree.IsAbove place above) (h' : tree.IsAbove place other) : above = other := by
  rw [isAbove_iff hrow] at h h'
  exact Option.some.inj (h.symm.trans h')

theorem Ascent.unique {row : Row} {chain other : List RowRef} (hrow : tree.row? place = some row)
    (h : tree.Ascent place chain) (h' : tree.Ascent place other) : chain = other := by
  induction h generalizing row other with
  | top htop =>
    cases h' with
    | top => rfl
    | step habove => exact absurd habove (htop _)
  | step habove rest ih =>
    cases h' with
    | top htop => exact absurd habove (htop _)
    | step habove' rest' =>
      obtain rfl := habove.unique hrow habove'
      obtain ⟨row', hrow'⟩ := habove.exists_row
      rw [ih hrow' rest']

theorem Ascent.before_of_mem {chain : List RowRef} (h : tree.Ascent place chain) {other : RowRef}
    (hmem : other ∈ chain) : other = place ∨ other.Before place := by
  induction h with
  | top =>
    rw [List.mem_singleton] at hmem
    exact .inl hmem
  | step habove rest ih =>
    rw [List.mem_cons] at hmem
    cases hmem with
    | inl heq => exact .inl heq
    | inr hmem =>
      apply Or.inr
      cases ih hmem with
      | inl heq =>
        rw [heq]
        exact habove.before
      | inr hbefore => exact hbefore.trans habove.before

theorem Ascent.pairwise_before {chain : List RowRef} (h : tree.Ascent place chain) :
    chain.Pairwise fun lower upper => upper.Before lower := by
  induction h with
  | top => exact List.pairwise_singleton _ _
  | step habove rest ih =>
    rw [List.pairwise_cons]
    refine ⟨?_, ih⟩
    intro other hmem
    cases rest.before_of_mem hmem with
    | inl heq =>
      rw [heq]
      exact habove.before
    | inr hbefore => exact hbefore.trans habove.before

def rowCount (tree : Tree) : Nat :=
  (tree.tables.flatMap Table.rows).length

def rank (tree : Tree) (place : RowRef) : Nat :=
  ((tree.tables.take place.table).flatMap Table.rows).length + place.row

theorem rank_lt_of_row? {row : Row} (hrow : tree.row? place = some row) {n : Nat}
    (hn : place.table < n) : tree.rank place < ((tree.tables.take n).flatMap Table.rows).length := by
  obtain ⟨table, htable, hget⟩ := exists_table_of_row? hrow
  obtain ⟨hlt, -⟩ := List.getElem?_eq_some_iff.1 hget
  obtain ⟨rest, hrest⟩ := List.take_prefix_take_left (l := tree.tables) hn
  rw [← hrest, List.take_add_one, htable]
  unfold rank
  simp only [List.flatMap_append, List.length_append, Option.toList_some, List.flatMap_singleton]
  omega

theorem rank_lt_rowCount {row : Row} (hrow : tree.row? place = some row) :
    tree.rank place < tree.rowCount := by
  obtain ⟨table, htable, -⟩ := exists_table_of_row? hrow
  obtain ⟨hlt, -⟩ := List.getElem?_eq_some_iff.1 htable
  have := rank_lt_of_row? hrow hlt
  rw [List.take_length] at this
  exact this

theorem rank_lt_rank {row : Row} (hrow : tree.row? above = some row) (h : above.Before place) :
    tree.rank above < tree.rank place := by
  cases h with
  | inl hlt =>
    have := rank_lt_of_row? hrow hlt
    unfold rank at this ⊢
    omega
  | inr h =>
    unfold rank
    rw [h.1]
    omega

theorem Ascent.length_le_rank {row : Row} {chain : List RowRef} (hrow : tree.row? place = some row)
    (h : tree.Ascent place chain) : chain.length ≤ tree.rank place + 1 := by
  induction h generalizing row with
  | top => simp
  | step habove rest ih =>
    obtain ⟨row', hrow'⟩ := habove.exists_row
    have hle := ih hrow'
    have hlt := rank_lt_rank hrow' habove.before
    rw [List.length_cons]
    omega

theorem exists_ascent (separator : String) (place : RowRef) (suffix : String) {row : Row}
    (hrow : tree.row? place = some row) :
    ∃ (chain : List RowRef) (rows : List Row), tree.Ascent place chain ∧
      chain.map tree.row? = rows.map some ∧ rows ≠ [] ∧
      tree.recompose separator place suffix =
        .ok (separator.intercalate (rows.reverse.map Row.text) ++ suffix) := by
  -- The way is built along the calls, which hand what is below a row up to it as `suffix`.
  fun_induction tree.recompose separator place suffix generalizing row with
  | case1 place suffix hnone =>
    rw [hrow] at hnone
    contradiction
  | case2 place suffix row' hrow' above habove ih =>
    have habove' := (isAbove_iff hrow').2 habove
    obtain ⟨upper, hupper⟩ := habove'.exists_row
    obtain ⟨chain, rows, hchain, hrows, hne, hlabel⟩ := ih hupper
    refine ⟨place :: chain, row' :: rows, .step habove' hchain, ?_, List.cons_ne_nil _ _, ?_⟩
    . rw [List.map_cons, List.map_cons, hrows, hrow']
    . rw [hlabel, List.reverse_cons, List.map_append, String.intercalate_append_of_ne_nil]
      . simp [String.append_assoc]
      . simp [hne]
      . simp
  | case3 place suffix row' hrow' hnone =>
    refine ⟨[place], [row'], .top ?_, ?_, List.cons_ne_nil _ _, ?_⟩
    . intro above habove
      rw [isAbove_iff hrow', hnone] at habove
      contradiction
    . rw [List.map_cons, List.map_cons, hrow']
      rfl
    . simp

/--
What recomposing a label gives, however the tree was built: an error for a place without a row, and
otherwise the labels on the only way up from the row, which has no more places than there are rows.
-/
theorem recompose_eq_ascent (tree : Tree) (separator : String) (place : RowRef) :
    match tree.row? place with
    | none => tree.recompose separator place = .error ⟨place⟩
    | some _ =>
      ∃ (chain : List RowRef) (rows : List Row), (∀ other, tree.Ascent place other ↔ other = chain) ∧
        chain.map tree.row? = rows.map some ∧
        (chain.Pairwise fun lower upper => upper.Before lower) ∧
        chain.length ≤ tree.rowCount ∧
        tree.recompose separator place = .ok (separator.intercalate (rows.reverse.map Row.text)) := by
  split
  . next hnone =>
    rw [recompose, hnone]
  . next row hrow =>
    obtain ⟨chain, rows, hchain, hrows, -, hlabel⟩ := exists_ascent separator place "" hrow
    refine ⟨chain, rows, ?_, hrows, hchain.pairwise_before, ?_, ?_⟩
    . intro other
      constructor
      . exact fun hother => hother.unique hrow hchain
      . intro heq
        rw [heq]
        exact hchain
    . have hle := hchain.length_le_rank hrow
      have hlt := rank_lt_rowCount hrow
      omega
    . rw [hlabel, String.append_empty]

end Tree
end Display
end ReportSegments
