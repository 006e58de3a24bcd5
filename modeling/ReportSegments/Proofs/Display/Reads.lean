import ReportSegments.Proofs.Display.Ascent

/-!
This module contains the labels on the way up from a displayed row, outermost first, and that the
full label of the row is made of them.
-/

namespace ReportSegments
namespace Display
namespace Tree

variable {tree : Tree} {place above : RowRef} {row : Row}

def Reads (tree : Tree) (place : RowRef) (labels : List String) : Prop :=
  ∃ (chain : List RowRef) (rows : List Row), tree.Ascent place chain ∧
    chain.map tree.row? = rows.map some ∧ rows.reverse.map Row.text = labels

theorem reads_top (hrow : tree.row? place = some row) (h : ∀ above, ¬tree.IsAbove place above) :
    tree.Reads place [row.text] := by
  refine ⟨[place], [row], .top h, ?_, rfl⟩
  rw [List.map_singleton, List.map_singleton, hrow]

theorem reads_step (hrow : tree.row? place = some row) (habove : tree.IsAbove place above)
    {labels : List String} (h : tree.Reads above labels) :
    tree.Reads place (labels ++ [row.text]) := by
  obtain ⟨chain, rows, hchain, hrows, rfl⟩ := h
  refine ⟨place :: chain, row :: rows, .step habove hchain, ?_, ?_⟩
  . rw [List.map_cons, List.map_cons, hrow, hrows]
  . rw [List.reverse_cons, List.map_append]
    rfl

theorem Reads.recompose_eq {labels : List String} (h : tree.Reads place labels)
    (hrow : tree.row? place = some row) (separator : String) :
    tree.recompose separator place = .ok (separator.intercalate labels) := by
  obtain ⟨chain, rows, hchain, hrows, rfl⟩ := h
  obtain ⟨chain', rows', hchain', hrows', -, hlabel⟩ := exists_ascent separator place "" hrow
  -- There is one way up only, so these are the rows that recomposing goes through.
  obtain rfl := hchain.unique hrow hchain'
  obtain rfl : rows = rows' := by
    rw [hrows] at hrows'
    exact (List.map_inj_right fun _ _ => Option.some.inj).1 hrows'
  rw [hlabel, String.append_empty]

theorem not_isLevelParent (hrow : tree.row? place = some row)
    (hlevel : row.level = none ∨ row.level = some 0) : ¬tree.IsLevelParent place above := by
  rintro ⟨row', level, hrow', hlevel', hpos, -⟩
  obtain rfl := Option.some.inj (hrow.symm.trans hrow')
  rw [hlevel'] at hlevel
  cases hlevel with
  | inl hnone => contradiction
  | inr hzero =>
    obtain rfl := Option.some.inj hzero
    contradiction

end Tree
end Display
end ReportSegments
