import Mathlib.Data.List.Lex
import ReportSegments.Proofs.Report.Path
import ReportSegments.Proofs.Report.PathText
import ReportSegments.Proofs.Report.WalkedRows

/-!
This module contains that paths are addresses of rows: the paths of a table are in a strict order,
so that no two rows have the same path, and a path of indices leads to the row that is shown with it.
-/

namespace ReportSegments

namespace RowId

/--
Whether a place comes before another one in the same table. The summary row comes last.
-/
inductive Before : RowId → RowId → Prop where
  | index {i j : Nat} (h : i < j) : Before (.index i) (.index j)
  | summary (i : Nat) : Before (.index i) .summary

/--
The order in which paths are shown. They are compared place by place, and a path comes before those
that go on from it.
-/
def PathBefore (path other : List RowId) : Prop :=
  List.Lex Before path other

theorem Before.ne {id other : RowId} (h : id.Before other) : id ≠ other := by
  cases h with
  | index h =>
    rw [ne_eq, index.injEq]
    omega
  | summary i => exact nofun

theorem PathBefore.ne {path other : List RowId} (h : PathBefore path other) : path ≠ other :=
  (h.imp fun _ _ => Before.ne).to_ne

end RowId

namespace Rows

theorem flattenRows_eq (i : Nat) (rows : List Row) :
    flattenRows i rows =
      (rows.zipIdx i).flatMap fun entry => flattenRow (.index entry.2) entry.1 := by
  induction rows generalizing i with
  | nil => rfl
  | cons row rows ih => rw [flattenRows, List.zipIdx_cons, List.flatMap_cons, ih]

theorem flatten_eq (table : Table) :
    table.flatten = table.withSummary.flatMap fun entry => flattenRow entry.1 entry.2 := by
  rcases table with ⟨rows, summary⟩
  rw [flatten, flattenRows_eq, withSummary, List.flatMap_append, List.flatMap_map]
  congr 1
  cases summary with
  | none => rfl
  | some row => exact (List.append_nil _).symm

theorem mem_withSummary_iff {table : Table} {id : RowId} {row : Row} :
    (id, row) ∈ table.withSummary ↔ table.row? id = some row := by
  unfold withSummary
  rw [List.mem_append, List.mem_map, List.mem_map]
  cases id with
  | index i => simp [row?, List.mem_zipIdx_iff_getElem?]
  | summary => simp [row?]

theorem pairwise_zipIdx (i : Nat) (rows : List Row) :
    (rows.zipIdx i).Pairwise fun entry later => entry.2 < later.2 := by
  have := List.pairwise_lt_range' (s := i) (n := rows.length)
  rw [← List.zipIdx_map_snd, List.pairwise_map] at this
  exact this

theorem pairwise_withSummary (table : Table) :
    table.withSummary.Pairwise fun entry later => entry.1.Before later.1 := by
  unfold withSummary
  rw [List.pairwise_append, List.pairwise_map]
  refine ⟨?_, ?_, ?_⟩
  . exact (pairwise_zipIdx 0 table.rows).imp .index
  . cases table.summary with
    | none => exact .nil
    | some row => exact List.pairwise_singleton _ _
  . intro entry hentry later hlater
    obtain ⟨⟨row, i⟩, -, rfl⟩ := List.mem_map.1 hentry
    obtain ⟨row', -, rfl⟩ := List.mem_map.1 hlater
    exact .summary i

theorem mem_flattenRow_iff {id : RowId} {upper : Row} {entry : List RowId × Row} :
    entry ∈ flattenRow id upper ↔
      entry = ([id], upper) ∨
        ∃ subtable path, upper.subtable = some subtable ∧ (path, entry.2) ∈ subtable.flatten ∧
          entry.1 = id :: path := by
  rw [flattenRow_eq, List.mem_cons, List.mem_map]
  cases upper.subtable with
  | none => simp
  | some subtable =>
    apply or_congr_right
    constructor
    . rintro ⟨⟨path, row⟩, hmem, rfl⟩
      exact ⟨subtable, path, rfl, hmem, rfl⟩
    . rintro ⟨found, path, hfound, hmem, hpath⟩
      obtain rfl := Option.some.inj hfound
      exact ⟨_, hmem, Prod.ext hpath.symm rfl⟩

theorem singleton_mem_flatten_iff {table : Table} {id : RowId} {row : Row} :
    ([id], row) ∈ table.flatten ↔ table.row? id = some row := by
  rw [flatten_eq, List.mem_flatMap, ← mem_withSummary_iff]
  constructor
  . rintro ⟨⟨id', upper⟩, hupper, hmem⟩
    rcases mem_flattenRow_iff.1 hmem with heq | ⟨subtable, path, -, hbelow, hpath⟩
    . simp only [Prod.mk.injEq, List.cons.injEq, and_true] at heq
      obtain ⟨rfl, rfl⟩ := heq
      exact hupper
    . obtain rfl := (List.cons.inj hpath).2
      exact absurd rfl (ne_nil_of_mem_flatten hbelow)
  . intro hrow
    exact ⟨(id, row), hrow, mem_flattenRow_iff.2 (.inl rfl)⟩

theorem cons_mem_flatten_iff {table : Table} {id : RowId} {path : List RowId} (hne : path ≠ [])
    {row : Row} :
    (id :: path, row) ∈ table.flatten ↔
      ∃ upper subtable, table.row? id = some upper ∧ upper.subtable = some subtable ∧
        (path, row) ∈ subtable.flatten := by
  rw [flatten_eq, List.mem_flatMap]
  constructor
  . rintro ⟨⟨id', upper⟩, hupper, hmem⟩
    rcases mem_flattenRow_iff.1 hmem with heq | ⟨subtable, path', hsub, hbelow, hpath⟩
    . simp only [Prod.mk.injEq, List.cons.injEq] at heq
      exact absurd heq.1.2 hne
    . obtain ⟨rfl, rfl⟩ := List.cons.inj hpath
      exact ⟨upper, subtable, mem_withSummary_iff.1 hupper, hsub, hbelow⟩
  . rintro ⟨upper, subtable, hupper, hsub, hbelow⟩
    refine ⟨(id, upper), mem_withSummary_iff.2 hupper, mem_flattenRow_iff.2 (.inr ?_)⟩
    exact ⟨subtable, path, hsub, hbelow, rfl⟩

theorem exists_of_mem_flattenRow {id : RowId} {row : Row} {entry : List RowId × Row}
    (h : entry ∈ flattenRow id row) : ∃ path, entry.1 = id :: path := by
  rcases mem_flattenRow_iff.1 h with rfl | ⟨_, path, _, _, hpath⟩
  . exact ⟨[], rfl⟩
  . exact ⟨path, hpath⟩

theorem pairwise_flattenRow (id : RowId) {row : Row}
    (ih : ∀ subtable, row.subtable = some subtable →
      subtable.flatten.Pairwise fun entry later => RowId.PathBefore entry.1 later.1) :
    (flattenRow id row).Pairwise fun entry later => RowId.PathBefore entry.1 later.1 := by
  rw [flattenRow_eq, List.pairwise_cons, List.pairwise_map]
  cases hsub : row.subtable with
  | none => exact ⟨nofun, .nil⟩
  | some subtable =>
    constructor
    . intro entry hentry
      obtain ⟨below, hbelow, rfl⟩ := List.mem_map.1 hentry
      obtain ⟨first, rest, heq⟩ := List.exists_cons_of_ne_nil (ne_nil_of_mem_flatten hbelow)
      rw [heq]
      exact .cons .nil
    . exact (ih subtable hsub).imp .cons

/--
The rows of a table are shown in the order of their paths.
-/
theorem pairwise_flatten (table : Table) :
    table.flatten.Pairwise fun entry later => RowId.PathBefore entry.1 later.1 := by
  induction table using nested_induction with
  | step rows summary ihrows ihsummary =>
    rw [flatten_eq, List.pairwise_flatMap]
    constructor
    . rintro ⟨id, row⟩ hmem
      apply pairwise_flattenRow
      have hrow := mem_withSummary_iff.1 hmem
      cases id with
      | index i => exact ihrows row (List.mem_of_getElem? hrow)
      | summary => exact ihsummary row hrow
    . apply (pairwise_withSummary ⟨rows, summary⟩).imp
      intro upper later hbefore entry hentry entry' hentry'
      obtain ⟨path, hpath⟩ := exists_of_mem_flattenRow hentry
      obtain ⟨path', hpath'⟩ := exists_of_mem_flattenRow hentry'
      rw [hpath, hpath']
      exact .rel hbefore

/--
A path of indices leads to the row that is shown with it.
-/
theorem mem_flatten_iff_rowAt? {table : Table} {path : List Nat} {row : Row} :
    (path.map RowId.index, row) ∈ table.flatten ↔ table.rowAt? path = some row := by
  induction path generalizing table with
  | nil =>
    constructor
    . intro hmem
      exact absurd rfl (ne_nil_of_mem_flatten hmem)
    . intro hrow
      contradiction
  | cons i path ih =>
    rw [List.map_cons]
    by_cases hpath : path = []
    . subst hpath
      exact singleton_mem_flatten_iff
    . have hids : path.map RowId.index ≠ [] := by
        rw [ne_eq, List.map_eq_nil_iff]
        exact hpath
      rw [cons_mem_flatten_iff hids, rowAt?_cons table i hpath]
      simp only [Option.bind_eq_some_iff, ih]
      constructor
      . rintro ⟨upper, subtable, hupper, hsub, hrow⟩
        exact ⟨subtable, ⟨upper, hupper, hsub⟩, hrow⟩
      . rintro ⟨subtable, ⟨upper, hupper, hsub⟩, hrow⟩
        exact ⟨upper, subtable, hupper, hsub, hrow⟩

theorem lt_of_rowAt? {bound : Nat} {table : Table}
    (h : ∀ opened ∈ table.walk, opened.rows.length < bound) {path : List Nat} {row : Row}
    (hrow : table.rowAt? path = some row) : ∀ i ∈ path, i < bound := by
  have hfirst : ∀ {table : Table} {i : Nat} {row : Row},
      (∀ opened ∈ table.walk, opened.rows.length < bound) → table.rows[i]? = some row →
        i < bound := by
    intro table i row h hrow
    have := h table (mem_walk_self table)
    obtain ⟨hlt, -⟩ := List.getElem?_eq_some_iff.1 hrow
    omega
  fun_induction rowAt? table path with
  | case1 => contradiction
  | case2 table i => exact List.forall_mem_singleton.2 (hfirst h hrow)
  | case3 table i j path ih =>
    obtain ⟨subtable, hsub, hrow⟩ := Option.bind_eq_some_iff.1 hrow
    obtain ⟨upper, hupper, hsub⟩ := Option.bind_eq_some_iff.1 hsub
    rw [List.forall_mem_cons]
    refine ⟨hfirst h hupper, ih subtable ?_ hrow⟩
    intro opened hopened
    exact h opened (mem_walk_of_subtable (List.mem_of_getElem? hupper) hsub hopened)

/--
Paths as addresses. They are in a strict order and so written differently; a path of indices is that
of the row to which it leads; and what is read back from a written path is this path, or nothing if
it goes through a summary row.
-/
theorem paths_flatten (table : Table)
    (h : ∀ opened ∈ table.walk, opened.rows.length < 18446744073709551616) :
    (table.flatten.map fun entry => RowId.pathText entry.1).Nodup ∧
    table.flatten.Pairwise (fun entry later => RowId.PathBefore entry.1 later.1) ∧
    (∀ entry ∈ table.flatten,
      Text.splitOn "/" (RowId.pathText entry.1) = entry.1.map RowId.text) ∧
    (∀ path row, table.rowAt? path = some row ↔
      (RowId.pathText (path.map .index), row) ∈
        table.flatten.map fun entry => (RowId.pathText entry.1, entry.2)) ∧
    (∀ entry ∈ table.flatten, .summary ∉ entry.1 →
      ∃ path, entry.1 = path.map .index ∧ Row.readPath? (RowId.pathText entry.1) = some path) ∧
    (∀ entry ∈ table.flatten, .summary ∈ entry.1 →
      Row.readPath? (RowId.pathText entry.1) = none) := by
  have hpairwise := pairwise_flatten table
  refine ⟨?_, hpairwise, ?_, ?_, ?_, ?_⟩
  . rw [List.Nodup, List.pairwise_map]
    apply hpairwise.imp
    intro entry later hbefore heq
    exact hbefore.ne (RowId.pathText_injective heq)
  . intro entry hentry
    exact RowId.splitOn_pathText (ne_nil_of_mem_flatten hentry)
  . intro path row
    rw [← mem_flatten_iff_rowAt?, List.mem_map]
    constructor
    . intro hmem
      exact ⟨_, hmem, rfl⟩
    . rintro ⟨entry, hentry, heq⟩
      simp only [Prod.mk.injEq] at heq
      rw [← RowId.pathText_injective heq.1, ← heq.2]
      exact hentry
  . rintro ⟨path, row⟩ hentry hsummary
    obtain ⟨indices, rfl⟩ := RowId.exists_indices hsummary
    have hrow := mem_flatten_iff_rowAt?.1 hentry
    refine ⟨indices, rfl, Row.readPath?_pathText_index ?_ (lt_of_rowAt? h hrow)⟩
    rintro rfl
    exact ne_nil_of_mem_flatten hentry rfl
  . intro entry _ hsummary
    exact Row.readPath?_pathText_summary hsummary

theorem paths_flatten_summaries :
    let pear : Row := { label := "Pear" }
    let others : Row := { subtable := some { rows := [{}, {}] } }
    let fruits : Row := { subtable := some { rows := [{}, pear], summary := some others } }
    let table : Table := { rows := [fruits, {}], summary := some {} }
    let paths := ["0", "0/0", "0/1", "0/summary", "0/summary/0", "0/summary/1", "1", "summary"]
    (∀ opened ∈ table.walk, opened.rows.length < 18446744073709551616) ∧
      (table.flatten.map fun entry => RowId.pathText entry.1) = paths ∧ paths.Nodup ∧
      table.rowAt? [0, 1] = some pear ∧
      ("0/1", pear) ∈ table.flatten.map (fun entry => (RowId.pathText entry.1, entry.2)) ∧
      Row.readPath? "0/1" = some [0, 1] ∧ Row.readPath? "0/summary/1" = none := by
  intro pear others fruits table paths
  have hwalk : ∀ opened ∈ table.walk, opened.rows.length < 18446744073709551616 := by decide
  have hpaths : (table.flatten.map fun entry => RowId.pathText entry.1) = paths := by decide
  obtain ⟨hnodup, -, -, hrows, hindices, hsummaries⟩ := paths_flatten table hwalk
  rw [hpaths] at hnodup
  refine ⟨hwalk, hpaths, hnodup, rfl, (hrows [0, 1] pear).1 rfl, ?_, ?_⟩
  . have hpear : ([.index 0, .index 1], pear) ∈ table.flatten := List.mem_of_getElem? (i := 2) rfl
    obtain ⟨indices, hids, hread⟩ := hindices _ hpear (by decide)
    obtain rfl : [0, 1] = indices := List.map_injective_iff.2 (fun _ _ => RowId.index.inj) hids
    exact hread
  . have hlast : ([.index 0, .summary, .index 1], {}) ∈ table.flatten :=
      List.mem_of_getElem? (i := 5) rfl
    exact hsummaries _ hlast (by decide)

end Rows
end ReportSegments
