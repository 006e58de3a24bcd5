import ReportSegments.Proofs.Display.Build
import ReportSegments.Proofs.Display.Hierarchy
import ReportSegments.Proofs.Display.Layout
import ReportSegments.Proofs.Display.Reads

/-!
This module contains that a hierarchy has the same full labels in its nested and in its flat form,
also where placeholders stand between the rows of the flat one.
-/

namespace ReportSegments
namespace Display
namespace Tree

open Node (ways nestedRows flatRows flatRow inOrder_ways ne_nil_of_mem_ways)

def ofNodes (rules : LayoutRules) (nodes : List Node) : Tree :=
  ofTable rules { rows := nestedRows nodes }

def ofRows (rows : List Row) : Tree :=
  build (rows.map (Change.push 0))

variable {rules : LayoutRules} {nodes : List Node}

theorem path_concat (way : Way) (node : Nat × String) :
    Way.path (way ++ [node]) = way.path ++ [node.1] := by
  unfold Way.path
  rw [List.map_append, List.map_singleton]

theorem labels_concat (way : Way) (node : Nat × String) :
    Way.labels (way ++ [node]) = way.labels ++ [node.2] := by
  unfold Way.labels
  rw [List.map_append, List.map_singleton]

theorem exists_place_ofNodes (rules : LayoutRules) {way : Way} {node : Nat × String}
    (h : way ++ [node] ∈ ways 0 nodes) :
    ∃ place row, (ofNodes rules nodes).resolve? (way ++ [node]).path = some place ∧
      (ofNodes rules nodes).row? place = some row ∧ row.level = none ∧ row.text = node.2 ∧
      (ofNodes rules nodes).parent? place.table = (ofNodes rules nodes).resolve? way.path := by
  obtain ⟨row, hrow, hlevel, upper, i, hway⟩ :=
    Node.exists_rowAt? nodes { rows := nestedRows nodes } [] rfl h
  obtain ⟨-, hnode⟩ := List.append_inj' hway rfl
  obtain rfl := List.singleton_inj.1 hnode
  obtain ⟨-, hshows⟩ := showsTable_ofTable rules { rows := nestedRows nodes }
  obtain ⟨place, hplace, hshown, hparent⟩ := resolve?_of_rowAt? hshows hrow
  obtain ⟨shown, hget, hshows, -⟩ := hshown.exists_shown
  refine ⟨place, shown, hplace, hget, ?_, hshows.text, ?_⟩
  . rw [hshows.level, hlevel]
  . rw [path_concat, List.dropLast_concat] at hparent
    exact hparent

/--
In the nested form a node is found by its path, and above it are the nodes on the way to it.
-/
theorem reads_ofNodes (rules : LayoutRules) (before : List Way) (way : Way) (after : List Way)
    (hways : ways 0 nodes = before ++ way :: after) :
    ∃ place row, (ofNodes rules nodes).resolve? way.path = some place ∧
      (ofNodes rules nodes).row? place = some row ∧
      (ofNodes rules nodes).Reads place way.labels := by
  apply (inOrder_ways 0 nodes).induction _ _ before way after hways
  . intro before node after hways
    have hmem : [] ++ [node] ∈ ways 0 nodes := by
      rw [hways]
      exact List.mem_append_right before (List.mem_cons_self ..)
    obtain ⟨place, row, hplace, hrow, hlevel, htext, hparent⟩ := exists_place_ofNodes rules hmem
    refine ⟨place, row, hplace, hrow, ?_⟩
    have hlabels : Way.labels [node] = [row.text] := by
      rw [htext]
      rfl
    rw [hlabels]
    apply reads_top hrow
    intro above habove
    cases habove with
    | inl hlevelParent => exact not_isLevelParent hrow (.inl hlevel) hlevelParent
    | inr hopened =>
      rw [hparent] at hopened
      have := hopened.2
      contradiction
  . intro front upper between node after hways _ _ ⟨above, _, habove, _, hreads⟩
    have hmem : upper ++ [node] ∈ ways 0 nodes := by
      rw [hways]
      exact List.mem_append_right _ (List.mem_cons_self ..)
    obtain ⟨place, row, hplace, hrow, hlevel, htext, hparent⟩ := exists_place_ofNodes rules hmem
    refine ⟨place, row, hplace, hrow, ?_⟩
    rw [labels_concat, ← htext]
    apply reads_step hrow _ hreads
    apply Or.inr
    refine ⟨?_, ?_⟩
    . intro other
      exact not_isLevelParent hrow (.inl hlevel)
    . rw [hparent, habove]

theorem tables_foldl_push (rows : List Row) {tree : Tree} {done : List Row}
    (h : tree.tables = [{ rows := done }]) :
    ((rows.map (Change.push 0)).foldl change tree).tables = [{ rows := done ++ rows }] := by
  induction rows generalizing tree done with
  | nil =>
    rw [List.append_nil]
    exact h
  | cons row rows ih =>
    have hpush : (tree.change (.push 0 row)).tables = [{ rows := done ++ [row] }] := by
      have hshown : tree.tables[0]? = some { rows := done } := by
        rw [h]
        rfl
      unfold change
      dsimp
      rw [push?_eq hshown]
      unfold push modifyRows
      dsimp
      rw [h]
      rfl
    rw [List.map_cons, List.foldl_cons, ih hpush, List.append_assoc]
    rfl

theorem row?_ofRows (rows : List Row) (i : Nat) : (ofRows rows).row? ⟨0, i⟩ = rows[i]? := by
  have htables : (ofRows rows).tables = [{ rows }] := @tables_foldl_push rows empty [] rfl
  unfold row? rowIn?
  rw [htables]
  rfl

theorem atLevel_ofRows {rows : List Row} {i : Nat} {level : UInt32} :
    (ofRows rows).AtLevel ⟨0, i⟩ level ↔
      ∃ row, rows[i]? = some row ∧ row.noData = false ∧ row.level = some level := by
  unfold AtLevel
  rw [row?_ofRows]

theorem level_flatRow (way : Way) :
    (flatRow 0 way).level = some (.ofNat (way.length - 1)) := by
  unfold flatRow
  rw [Nat.zero_add]

theorem length_eq_of_level {way other : Way} (hne : way ≠ []) (hne' : other ≠ [])
    (hsize : way.length ≤ UInt32.size) (hsize' : other.length ≤ UInt32.size)
    (h : (flatRow 0 way).level = (flatRow 0 other).level) : way.length = other.length := by
  have hpos := List.length_pos_iff.2 hne
  have hpos' := List.length_pos_iff.2 hne'
  rw [level_flatRow, level_flatRow, Option.some_inj] at h
  have htoNat := congrArg UInt32.toNat h
  rw [UInt32.toNat_ofNat_of_lt', UInt32.toNat_ofNat_of_lt'] at htoNat
  all_goals omega

/--
In the flat form the nearest row in front that is one level higher is that of the node above, since
the placeholders between them do not count.
-/
theorem isLevelParent_ofRows {upper : Way} {node : Nat × String} {front between rest : List Row}
    {others : List Way} (hne : upper ≠ []) (hsize : upper.length < UInt32.size)
    (hbetween : between.filter (fun row => !row.noData) = others.map (flatRow 0))
    (hothers : ∀ other ∈ others,
      other ≠ [] ∧ other.length ≤ UInt32.size ∧ other.length ≠ upper.length) :
    (ofRows (front ++ flatRow 0 upper :: between ++ flatRow 0 (upper ++ [node]) :: rest)).IsLevelParent
      ⟨0, (front ++ flatRow 0 upper :: between).length⟩ ⟨0, front.length⟩ := by
  have hpos := List.length_pos_iff.2 hne
  have hlevel : (flatRow 0 (upper ++ [node])).level = some (.ofNat upper.length) := by
    rw [level_flatRow, List.length_append, List.length_singleton, Nat.add_sub_cancel]
  have hupper : (flatRow 0 upper).level = some (.ofNat upper.length - 1) := by
    rw [level_flatRow, UInt32.ofNat_sub hpos]
    rfl
  refine ⟨flatRow 0 (upper ++ [node]), .ofNat upper.length, ?_, hlevel, ?_, rfl, ?_, ?_, ?_⟩
  . rw [row?_ofRows, List.getElem?_append_right (Nat.le_refl _), Nat.sub_self]
    rfl
  . exact (UInt32.ofNat_lt_iff_lt (by decide) hsize).2 hpos
  . rw [List.length_append, List.length_cons]
    dsimp
    omega
  . rw [atLevel_ofRows]
    refine ⟨flatRow 0 upper, ?_, rfl, hupper⟩
    rw [List.append_assoc, List.getElem?_append_right (Nat.le_refl _), Nat.sub_self]
    rfl
  . intro i hi hlt hlevel
    dsimp at hi hlt
    rw [atLevel_ofRows] at hlevel
    obtain ⟨row, hrow, hdata, hlevel⟩ := hlevel
    rw [List.getElem?_append_left hlt, List.getElem?_append_right (Nat.le_of_lt hi),
      List.getElem?_cons, if_neg (by omega)] at hrow
    have hmem : row ∈ between.filter (fun row => !row.noData) := by
      rw [List.mem_filter]
      exact ⟨List.mem_of_getElem? hrow, by rw [hdata]; rfl⟩
    rw [hbetween, List.mem_map] at hmem
    obtain ⟨other, hother, rfl⟩ := hmem
    obtain ⟨hotherNe, hotherSize, hlength⟩ := hothers other hother
    apply hlength
    apply length_eq_of_level hotherNe hne hotherSize (Nat.le_of_lt hsize)
    rw [hlevel, hupper]

theorem reads_ofRows {rows : List Row} (hsize : ∀ way ∈ ways 0 nodes, way.length ≤ UInt32.size)
    (before : List Way) (way : Way) (after : List Way)
    (hways : ways 0 nodes = before ++ way :: after) :
    ∀ (front rest : List Row), rows = front ++ flatRow 0 way :: rest →
      front.filter (fun row => !row.noData) = before.map (flatRow 0) →
      (ofRows rows).Reads ⟨0, front.length⟩ way.labels := by
  apply (inOrder_ways 0 nodes).induction _ _ before way after hways
  . intro before node after hways front rest hrows hfront
    have hrow : (ofRows rows).row? ⟨0, front.length⟩ = some (flatRow 0 [node]) := by
      rw [row?_ofRows, hrows, List.getElem?_append_right (Nat.le_refl _), Nat.sub_self]
      rfl
    apply reads_top hrow
    intro above habove
    cases habove with
    | inl hlevelParent =>
      apply not_isLevelParent hrow _ hlevelParent
      exact .inr (level_flatRow [node])
    | inr hopened =>
      have := parent?_zero (ofRows rows)
      rw [hopened.2] at this
      contradiction
  . intro front upper between node after hways hne hother ih rfront rest hrows hfront
    -- The rows in front are split where the row of the node above is.
    rw [List.map_append, List.map_cons, List.filter_eq_append_iff] at hfront
    obtain ⟨first, second, rfl, hfirst, hsecond⟩ := hfront
    obtain ⟨skipped, rbetween, rfl, hskipped, -, hbetween⟩ := List.filter_eq_cons_iff.1 hsecond
    have hnil : skipped.filter (fun row => !row.noData) = [] := List.filter_eq_nil_iff.2 hskipped
    have hupper : (ofRows rows).Reads ⟨0, (first ++ skipped).length⟩ upper.labels := by
      apply ih (first ++ skipped) (rbetween ++ flatRow 0 (upper ++ [node]) :: rest)
      . rw [hrows]
        simp
      . rw [List.filter_append, hnil, List.append_nil, hfirst]
    rw [← List.append_assoc] at hrows ⊢
    have hrow : (ofRows rows).row? ⟨0, (first ++ skipped ++ flatRow 0 upper :: rbetween).length⟩ =
        some (flatRow 0 (upper ++ [node])) := by
      rw [row?_ofRows, hrows, List.getElem?_append_right (Nat.le_refl _), Nat.sub_self]
      rfl
    have htext : (flatRow 0 (upper ++ [node])).text = node.2 := by
      unfold Row.text flatRow
      rw [List.getLast?_concat]
      rfl
    rw [labels_concat, ← htext]
    apply reads_step hrow _ hupper
    apply Or.inl
    rw [hrows]
    apply isLevelParent_ofRows hne _ hbetween
    . intro other hmem
      have hmem : other ∈ ways 0 nodes := by
        rw [hways]
        simp [hmem]
      exact ⟨ne_nil_of_mem_ways hmem, hsize other hmem, hother other ‹_›⟩
    . have := hsize (upper ++ [node]) (by rw [hways]; simp)
      rw [List.length_append, List.length_singleton] at this
      omega

/--
Whether row `i` is number `k` of the rows that are no placeholders.
-/
def IsRealRow (rows : List Row) (k i : Nat) : Prop :=
  (∃ row, rows[i]? = some row ∧ row.noData = false) ∧
    (rows.take i).countP (fun row => !row.noData) = k

/--
Each node of a hierarchy has the same full label in the nested form, where it is found by its path,
and in the flat form, where rows are in the order of the nodes: the labels on the way to it.
-/
theorem recompose_nested_eq_flat (rules : LayoutRules) (separator : String) (nodes : List Node)
    (hsize : ∀ way ∈ ways 0 nodes, way.length ≤ UInt32.size) (rows : List Row)
    (hrows : rows.filter (fun row => !row.noData) = flatRows 0 nodes) :
    ∀ k way, (ways 0 nodes)[k]? = some way →
      ∃ i place, IsRealRow rows k i ∧ (ofNodes rules nodes).resolve? way.path = some place ∧
        (ofNodes rules nodes).recompose separator place =
          .ok (separator.intercalate way.labels) ∧
        (ofRows rows).recompose separator ⟨0, i⟩ = .ok (separator.intercalate way.labels) := by
  intro k way hway
  obtain ⟨hk, hget⟩ := List.getElem?_eq_some_iff.1 hway
  have hways : ways 0 nodes = (ways 0 nodes).take k ++ way :: (ways 0 nodes).drop (k + 1) := by
    rw [← hget, ← List.drop_eq_getElem_cons, List.take_append_drop]
  rw [Node.flatRows_eq 0 0, hways, List.map_append, List.map_cons] at hrows
  obtain ⟨first, second, rfl, hfirst, hsecond⟩ := List.filter_eq_append_iff.1 hrows
  obtain ⟨skipped, rest, rfl, hskipped, hdata, -⟩ := List.filter_eq_cons_iff.1 hsecond
  have hnil : skipped.filter (fun row => !row.noData) = [] := List.filter_eq_nil_iff.2 hskipped
  have hfront : (first ++ skipped).filter (fun row => !row.noData) =
      ((ways 0 nodes).take k).map (flatRow 0) := by
    rw [List.filter_append, hnil, List.append_nil, hfirst]
  obtain ⟨place, row, hplace, hrow, hnested⟩ := reads_ofNodes rules _ way _ hways
  rw [← List.append_assoc]
  have hflat := reads_ofRows hsize _ way _ hways (first ++ skipped) rest rfl hfront
  have hreal : (first ++ skipped ++ flatRow 0 way :: rest)[(first ++ skipped).length]? =
      some (flatRow 0 way) := by
    rw [List.getElem?_append_right (Nat.le_refl _), Nat.sub_self]
    rfl
  refine ⟨(first ++ skipped).length, place, ⟨⟨flatRow 0 way, hreal, rfl⟩, ?_⟩, hplace, ?_, ?_⟩
  . rw [List.take_left, List.countP_eq_length_filter, hfront, List.length_map, List.length_take]
    omega
  . exact hnested.recompose_eq hrow separator
  . apply hflat.recompose_eq _ separator
    . exact flatRow 0 way
    . rw [row?_ofRows, hreal]

theorem recompose_nested_eq_flat_placeholders :
    let nodes : List Node := [⟨"shop", [⟨"fruits", [⟨"apple", []⟩]⟩, ⟨"nuts", []⟩]⟩, ⟨"about", []⟩]
    let rows : List Row :=
      [{ label := "shop", level := some 0 }, { label := "fruits", level := some 1 },
        { label := "No data", level := some 1, noData := true }, { label := "apple", level := some 2 },
        { label := "No data", noData := true }, { label := "nuts", level := some 1 },
        { label := "about", level := some 0 }]
    (∀ way ∈ ways 0 nodes, way.length ≤ UInt32.size) ∧
      rows.filter (fun row => !row.noData) = flatRows 0 nodes ∧
      (ways 0 nodes)[2]? = some [(0, "shop"), (0, "fruits"), (0, "apple")] ∧
      ∃ i place, IsRealRow rows 2 i ∧ (ofNodes {} nodes).resolve? [0, 0, 0] = some place ∧
        (ofNodes {} nodes).recompose "/" place = .ok "shop/fruits/apple" ∧
        (ofRows rows).recompose "/" ⟨0, i⟩ = .ok "shop/fruits/apple" := by
  intro nodes rows
  have hsize : ∀ way ∈ ways 0 nodes, way.length ≤ UInt32.size := by decide
  have hrows : rows.filter (fun row => !row.noData) = flatRows 0 nodes := by decide
  exact ⟨hsize, hrows, rfl, recompose_nested_eq_flat {} "/" nodes hsize rows hrows 2 _ rfl⟩

end Tree
end Display
end ReportSegments
