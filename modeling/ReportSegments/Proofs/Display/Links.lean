import ReportSegments.Proofs.Display.Build
import ReportSegments.Proofs.Display.Layout

/-!
This module contains how the links between rows and tables go together in every tree that was built:
the table below a row has this row as its parent, and of all tables with one parent the row knows the
one that was opened last. So no two paths lead to one row.
-/

namespace ReportSegments
namespace Display
namespace Tree

/--
What is known of the links of a tree, whatever was opened twice.
-/
structure Linked (tree : Tree) : Prop where
  opened : ∀ id, 0 < id → id < tree.tables.length → ∃ place, tree.parent? id = some place
  below : ∀ place row id, tree.row? place = some row → row.subtable = some id →
    tree.parent? id = some place
  newest : ∀ id place, tree.parent? id = some place →
    ∃ row newest, tree.row? place = some row ∧ row.subtable = some newest ∧ id ≤ newest

theorem linked_empty : Linked empty := by
  refine ⟨?_, ?_, ?_⟩
  . intro id hpos hlt
    have : id < 1 := hlt
    omega
  . rintro ⟨id, i⟩ row below hrow
    cases id <;> contradiction
  . intro id place hparent
    cases id <;> contradiction

variable {tree : Tree} {id : Nat} {place : RowRef} {row : Row}

theorem Linked.push (h : Linked tree) (id : Nat) (hrow : row.subtable = none) :
    Linked (tree.push id row) := by
  refine ⟨?_, ?_, ?_⟩
  . intro k hpos hlt
    rw [(tree.grows_push id row).length] at hlt
    rw [parent?_push]
    exact h.opened k hpos hlt
  . intro place found below hfound hbelow
    rw [row?_push_eq] at hfound
    rw [parent?_push]
    split at hfound
    . obtain rfl := Option.some.inj hfound
      rw [hrow] at hbelow
      contradiction
    . exact h.below place found below hfound hbelow
  . intro k place hparent
    rw [parent?_push] at hparent
    obtain ⟨found, newest, hfound, hbelow, hle⟩ := h.newest k place hparent
    refine ⟨found, newest, ?_, hbelow, hle⟩
    rw [row?_push_eq, if_neg]
    . exact hfound
    . intro hend
      rw [row?_of_end? hend] at hfound
      contradiction

theorem Linked.openBelow (h : Linked tree) (place : RowRef) (hsome : (tree.row? place).isSome) :
    Linked (tree.openBelow place hsome) := by
  refine ⟨?_, ?_, ?_⟩
  . intro k hpos hlt
    rw [length_openBelow] at hlt
    rw [parent?_openBelow]
    split
    . exact ⟨place, rfl⟩
    . apply h.opened k hpos
      omega
  . intro other found below hfound hbelow
    rw [row?_openBelow] at hfound
    obtain ⟨row, hrow, rfl⟩ := Option.map_eq_some_iff.1 hfound
    rw [parent?_openBelow]
    split at hbelow
    . next hother =>
      rw [if_pos (Option.some.inj hbelow).symm, hother]
    . have hparent := h.below other row below hrow hbelow
      have hlt := lt_length_of_parent? hparent
      rw [if_neg (Nat.ne_of_lt hlt)]
      exact hparent
  . intro k other hparent
    rw [parent?_openBelow] at hparent
    split at hparent
    . next hk =>
      obtain rfl := Option.some.inj hparent
      obtain ⟨row, hrow⟩ := Option.isSome_iff_exists.1 hsome
      refine ⟨{ row with subtable := some tree.tables.length }, tree.tables.length, ?_, rfl, ?_⟩
      . rw [row?_openBelow, hrow, Option.map_some, if_pos rfl]
      . omega
    . obtain ⟨row, newest, hrow, hbelow, hle⟩ := h.newest k other hparent
      -- A row that is opened again forgets its older table for the new one, which is later.
      by_cases hother : other = place
      . refine ⟨{ row with subtable := some tree.tables.length }, tree.tables.length, ?_, rfl, ?_⟩
        . rw [row?_openBelow, hrow, Option.map_some, if_pos hother]
        . have := lt_length_of_parent? hparent
          omega
      . refine ⟨row, newest, ?_, hbelow, hle⟩
        rw [row?_openBelow, hrow, Option.map_some, if_neg hother]

/--
Whether a change adds no row that has a table below it already.
-/
def Change.IsFresh : Change → Prop
  | .push _ row => row.subtable = none
  | .openBelow _ => True

theorem Linked.change (h : Linked tree) {change : Change} (hfresh : change.IsFresh) :
    Linked (tree.change change) := by
  cases change with
  | push id row =>
    unfold Tree.change push?
    dsimp
    cases tree.end? id with
    | none => exact h
    | some place => exact h.push id hfresh
  | openBelow place =>
    unfold Tree.change openBelow?
    dsimp
    split
    . next hsome => exact h.openBelow place hsome
    . exact h

theorem linked_build {changes : List Change} (hfresh : ∀ change ∈ changes, change.IsFresh) :
    Linked (build changes) := by
  unfold build
  apply List.foldlRecOn
  . exact linked_empty
  . intro tree h change hmem
    exact h.change (hfresh change hmem)

theorem Linked.le_newest (h : Linked tree) (hrow : tree.row? place = some row) {newest : Nat}
    (hnewest : row.subtable = some newest) (hparent : tree.parent? id = some place) :
    id ≤ newest := by
  obtain ⟨row', newest', hrow', hnewest', hle⟩ := h.newest id place hparent
  obtain rfl := Option.some.inj (hrow.symm.trans hrow')
  obtain rfl := Option.some.inj (hnewest.symm.trans hnewest')
  exact hle

theorem Linked.below?_eq_some (h : Linked tree) {upper : RowRef} {j : Nat}
    (hbelow : tree.below? upper j = some place) :
    place.row = j ∧ tree.parent? place.table = some upper := by
  obtain ⟨id, hid, hplace⟩ := Option.bind_eq_some_iff.1 hbelow
  obtain ⟨row, hrow, hsub⟩ := Option.bind_eq_some_iff.1 hid
  obtain ⟨-, -, rfl⟩ := Option.map_eq_some_iff.1 hplace
  exact ⟨rfl, h.below upper row id hrow hsub⟩

/--
What a row says of the path that leads to it: its last index, and the path without it.
-/
theorem Linked.resolve?_concat_eq_some (h : Linked tree) {path : List Nat} {j : Nat}
    (hplace : tree.resolve? (path ++ [j]) = some place) :
    place.row = j ∧ tree.parent? place.table = tree.resolve? path ∧
      (tree.resolve? path = none → path = []) := by
  by_cases hpath : path = []
  . subst hpath
    obtain ⟨-, -, rfl⟩ := Option.map_eq_some_iff.1 hplace
    exact ⟨rfl, parent?_zero tree, fun _ => rfl⟩
  . rw [resolve?_concat tree hpath] at hplace
    obtain ⟨upper, hupper, hbelow⟩ := Option.bind_eq_some_iff.1 hplace
    obtain ⟨hj, hparent⟩ := h.below?_eq_some hbelow
    refine ⟨hj, ?_, ?_⟩
    . rw [hparent, hupper]
    . intro hnone
      rw [hnone] at hupper
      contradiction

theorem Linked.resolve?_injective (h : Linked tree) {path other : List Nat}
    (hpath : tree.resolve? path = some place) (hother : tree.resolve? other = some place) :
    path = other := by
  induction path using List.reverseRecOn generalizing other place with
  | nil => contradiction
  | append_singleton path j ih =>
    cases other using List.reverseRecOn with
    | nil => contradiction
    | append_singleton other k =>
      obtain ⟨hj, hparent, hroot⟩ := h.resolve?_concat_eq_some hpath
      obtain ⟨hk, hparent', hroot'⟩ := h.resolve?_concat_eq_some hother
      rw [hparent'] at hparent
      have hfront : path = other := by
        cases hupper : tree.resolve? path with
        | none => rw [hroot hupper, hroot' (hparent.trans hupper)]
        | some upper => exact ih hupper (hparent.trans hupper)
      rw [hfront, ← hj, hk]

/--
The links of every tree that was built from rows without tables below them.
-/
theorem links_build (changes : List Change) (hfresh : ∀ change ∈ changes, change.IsFresh) :
    (build changes).parent? 0 = none ∧
    (∀ id, 1 ≤ id → id < (build changes).tables.length →
      ∃ place row newest, (build changes).parent? id = some place ∧ place.table < id ∧
        (build changes).row? place = some row ∧ row.subtable = some newest ∧ id ≤ newest ∧
        (build changes).parent? newest = some place ∧
        ∀ other, (build changes).parent? other = some place → other ≤ newest) ∧
    (∀ place row id, (build changes).row? place = some row → row.subtable = some id →
      1 ≤ id ∧ id < (build changes).tables.length ∧ (build changes).parent? id = some place) ∧
    (∀ path other place, (build changes).resolve? path = some place →
      (build changes).resolve? other = some place → path = other) := by
  have h := linked_build hfresh
  generalize build changes = tree at h
  refine ⟨parent?_zero tree, ?_, ?_, ?_⟩
  . intro id hpos hlt
    obtain ⟨place, hparent⟩ := h.opened id hpos hlt
    obtain ⟨row, newest, hrow, hnewest, hle⟩ := h.newest id place hparent
    obtain ⟨table, htable, hplace⟩ := Option.bind_eq_some_iff.1 hparent
    refine ⟨place, row, newest, hparent, ?_, hrow, hnewest, hle, ?_, ?_⟩
    . exact (tree.opened id table place htable hplace).1
    . exact h.below place row newest hrow hnewest
    . intro other
      exact h.le_newest hrow hnewest
  . intro place row id hrow hsub
    have hparent := h.below place row id hrow hsub
    refine ⟨?_, lt_length_of_parent? hparent, hparent⟩
    apply Nat.pos_of_ne_zero
    intro hzero
    rw [hzero, parent?_zero] at hparent
    contradiction
  . intro path other place
    exact h.resolve?_injective

theorem links_build_reopened :
    let changes : List Change :=
      [.push 0 { label := "a" }, .openBelow ⟨0, 0⟩, .push 1 { label := "b" }, .openBelow ⟨0, 3⟩,
        .openBelow ⟨0, 0⟩, .push 2 { label := "c" }]
    let tree := build changes
    (∀ change ∈ changes, change.IsFresh) ∧ tree.tables.length = 3 ∧
      (∃ row, tree.row? ⟨0, 0⟩ = some row ∧ row.subtable = some 2) ∧
      (∀ other, tree.parent? other = some ⟨0, 0⟩ → other ≤ 2) ∧
      tree.resolve? [0, 0] = some ⟨2, 0⟩ ∧
      ∀ path, tree.resolve? path = some ⟨2, 0⟩ → path = [0, 0] := by
  intro changes tree
  have hfresh : ∀ change ∈ changes, change.IsFresh := by
    simp [changes, Change.IsFresh]
  obtain ⟨-, hopened, -, hpaths⟩ := links_build changes hfresh
  have hresolve : tree.resolve? [0, 0] = some ⟨2, 0⟩ := by decide
  refine ⟨hfresh, rfl, ⟨_, rfl, rfl⟩, ?_, hresolve, ?_⟩
  . obtain ⟨place, row, newest, hparent, -, hrow, hnewest, -, -, hall⟩ := hopened 1 (by decide) (by decide)
    obtain rfl : ⟨0, 0⟩ = place := Option.some.inj hparent
    obtain rfl := Option.some.inj hrow
    obtain rfl : 2 = newest := Option.some.inj hnewest
    exact hall
  . intro path hpath
    exact hpaths path [0, 0] ⟨2, 0⟩ hpath hresolve

end Tree
end Display
end ReportSegments
