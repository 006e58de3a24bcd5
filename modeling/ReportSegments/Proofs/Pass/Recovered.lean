import ReportSegments.Proofs.Pass.Source

/-!
This module contains that nothing in a label or a value can make the filter that is written for it
say something else: the filter is read as one condition for each key of the pass that wrote it, with
the value for this key.
-/

namespace ReportSegments

open Text (EndsBlank trimEnd)
open Percent (decode hasEscape)

theorem Json.keepOr_of_isClear {old : Option Json} (h : old = none ∨ old = some .null)
    (found : Option String) : keepOr old found = found.elim old (some <| .string ·) := by
  rcases h with rfl | rfl <;> cases found <;> rfl

theorem Pass.Wrote.parse_eq {source : Source} {keys : List String} {filter : String}
    (h : Wrote source keys filter) (hkeys : ∀ key ∈ keys, key = "" ∨ Condition.IsKey key)
    (hline : '\n' ∉ source.text.toList) :
    Expression.parse filter =
      .ok (source.used.map fun (key, value) =>
        [⟨key, .equals, decode (String.ofList (trimEnd (Clause.escape value).toList))⟩]) := by
  have hvalues : ∀ used ∈ source.used,
      Condition.IsKey used.1 ∧ '\n' ∉ used.2.toList := by
    intro used hused
    obtain ⟨hmem, hne⟩ := List.mem_filter.1 hused
    constructor
    . apply (hkeys used.1 _).resolve_left (of_decide_eq_true hne)
      rw [← h.keys]
      exact List.mem_map_of_mem hmem
    . intro hnewline
      apply hline
      rw [← h.text, String.toList_intercalate]
      exact Text.mem_intercalate (List.mem_map_of_mem (List.mem_map_of_mem hmem)) hnewline
  have hne : source.conditions ≠ [] := by
    rw [Source.conditions, ne_eq, List.map_eq_nil_iff]
    exact h.used
  rw [h.filter, Expression.parse_joinAnd_of_oneLine hne]
  . rw [Source.conditions, List.map_map]
    rfl
  . exact List.forall_mem_map.2 fun used hused => (hvalues used hused).1
  . exact List.forall_mem_map.2 fun _ _ => rfl
  . exact List.forall_mem_map.2 fun used hused => (hvalues used hused).2

namespace Pipeline

theorem getElem?_filters_run (passes : Pipeline) {table : Table} {i : Nat} {path : List RowId}
    {row : Row} (hrow : table.flatten[i]? = some (path, row)) {id : RowId}
    (hlast : path.getLast? = some id) :
    (run passes table).1.filters[i]? =
      some (path,
        if Rows.isWalked path then
          Json.keepOr (row.metadata.get? Row.filterKey)
            (passes.findSome? fun pass => pass.write? id row)
        else
          row.metadata.get? Row.filterKey) := by
  unfold Rows.filters
  rw [fst_run, Rows.flatten_mapMetadata, List.map_map, List.getElem?_map, hrow, Option.map_some]
  simp only [Function.comp_apply]
  rw [Rows.metadata_mapMetadataAt, hlast]
  cases Rows.isWalked path with
  | false => rfl
  | true =>
    dsimp only
    rw [get?_edit_filterKey]
    rfl

/--
A new filter is there only behind a walk to the row, and it is that of the first pass that has one.
-/
theorem exists_writer {passes : Pipeline} {id : RowId} {row : Row} {walked : Bool}
    {old : Option Json} {written : Json} (hold : old = none ∨ old = some .null)
    (hnull : written ≠ .null)
    (h : (if walked then (passes.findSome? fun pass => pass.write? id row).elim old
      (some <| .string ·) else old) = some written) :
    walked = true ∧ ∃ filter earlier pass later, written = .string filter ∧
      passes = earlier ++ pass :: later ∧ pass.write? id row = some filter ∧
      ∀ other ∈ earlier, other.write? id row = none := by
  have hkept : old ≠ some written := by
    rintro rfl
    rcases hold with hnone | hsome
    . contradiction
    . exact hnull (Option.some.inj hsome)
  cases walked with
  | false => exact absurd h hkept
  | true =>
    refine ⟨rfl, ?_⟩
    rw [if_pos rfl] at h
    cases hfound : passes.findSome? fun pass => pass.write? id row with
    | none =>
      rw [hfound] at h
      exact absurd h hkept
    | some filter =>
      rw [hfound, Option.elim_some, Option.some_inj] at h
      obtain ⟨earlier, pass, later, hsplit, hwrite, hearlier⟩ := List.findSome?_eq_some_iff.1 hfound
      exact ⟨filter, earlier, pass, later, h.symm, hsplit, hwrite, hearlier⟩

/--
A filter that passes write for a row without one is that of the first pass that has an expression
for the row. The values in what this pass took it from are read back, each with its key and as far
as blanks at its end and its own percent codes allow.
-/
theorem parse_written_filter (passes : Pipeline) (hpasses : ∀ pass ∈ passes, pass.Escapes)
    (table : Table) (hclear : ∀ entry ∈ table.filters, entry.2 = none ∨ entry.2 = some .null)
    (i : Nat) (path : List RowId) (row : Row) (written : Json)
    (hrow : table.flatten[i]? = some (path, row))
    (hwritten : (run passes table).1.filters[i]? = some (path, some written))
    (hnull : written ≠ .null) :
    ∃ filter earlier pass later source old,
      written = .string filter ∧ passes = earlier ++ pass :: later ∧
      (run earlier table).1.filters[i]? = some (path, old) ∧ (old = none ∨ old = some .null) ∧
      (run (earlier ++ [pass]) table).1.filters[i]? = some (path, some written) ∧
      pass.source? row = some source ∧ source.values.map Prod.fst = pass.keys ∧
      source.delimiter.intercalate (source.values.map Prod.snd) = source.text ∧
      ('\n' ∉ source.text.toList →
        Expression.parse filter =
          .ok (source.used.map fun (key, value) =>
            [⟨key, .equals, decode (String.ofList (trimEnd (Clause.escape value).toList))⟩])) ∧
      ∀ value ∈ source.values.map Prod.snd, ¬EndsBlank value.toList →
        hasEscape value.toList = false →
        decode (String.ofList (trimEnd (Clause.escape value).toList)) = value := by
  have hpath : path ≠ [] := Rows.ne_nil_of_mem_flatten (List.mem_of_getElem? hrow)
  obtain ⟨id, hlast⟩ : ∃ id, path.getLast? = some id :=
    ⟨_, List.getLast?_eq_some_getLast hpath⟩
  have hold : row.metadata.get? Row.filterKey = none ∨
      row.metadata.get? Row.filterKey = some .null := by
    apply hclear (path, row.metadata.get? Row.filterKey)
    exact List.mem_map_of_mem (List.mem_of_getElem? hrow)
  generalize hfilter : row.metadata.get? Row.filterKey = old at hold
  have hrun := fun passes => getElem?_filters_run passes hrow hlast
  simp only [hfilter, Json.keepOr_of_isClear hold] at hrun
  rw [hrun, Option.some_inj, Prod.mk.injEq] at hwritten
  obtain ⟨hwalked, filter, earlier, pass, later, rfl, rfl, hwrite, hearlier⟩ :=
    exists_writer hold hnull hwritten.2
  have hescapes := hpasses pass (by simp)
  obtain ⟨source, hsource, hwrote⟩ := hescapes.exists_source hwrite
  refine ⟨filter, earlier, pass, later, source, old, rfl, rfl, ?_, hold, ?_, hsource, hwrote.keys,
    hwrote.text, ?_, ?_⟩
  . rw [hrun, hwalked, if_pos rfl, List.findSome?_eq_none_iff.2 hearlier]
    rfl
  . rw [hrun, hwalked, if_pos rfl, List.findSome?_append,
      List.findSome?_eq_none_iff.2 hearlier, Option.none_or, List.findSome?_singleton, hwrite]
    rfl
  . exact hwrote.parse_eq hescapes.forall_mem_keys
  . intro value _
    exact Clause.decode_trimEnd_escape

theorem parse_written_filter_hostile :
    let pass : Pass := .byLabel ["city", "", "browser.name"] "|" true
    let row : Row := { label := "a;b&x==1,2%|skipped|c=@d" }
    let table : Table := { rows := [{ subtable := some { rows := [row] } }] }
    let path : List RowId := [.index 0, .index 0]
    let written := "city==a%3Bb%26x==1%2C2%;browser.name==c=@d"
    pass.Escapes ∧
      (∀ entry ∈ table.filters, entry.2 = none ∨ entry.2 = some .null) ∧
      table.flatten[1]? = some (path, row) ∧
      (run [pass] table).1.filters[1]? = some (path, some (.string written)) ∧
      Expression.parse written =
        .ok [[⟨"city", .equals, "a;b&x==1,2%"⟩], [⟨"browser.name", .equals, "c=@d"⟩]] := by
  intro pass row table path written
  have hescapes : pass.Escapes := .delimited "|" (by decide)
  have hclear : ∀ entry ∈ table.filters, entry.2 = none ∨ entry.2 = some .null := by
    have hfilters : table.filters = [([.index 0], none), (path, none)] := rfl
    rw [hfilters]
    simp
  have hwritten : (run [pass] table).1.filters[1]? = some (path, some (.string written)) := by
    have hwrite : [pass].findSome? (fun pass => pass.write? (.index 0) row) = some written := by
      decide
    have hlast : path.getLast? = some (.index 0) := rfl
    rw [getElem?_filters_run [pass] rfl hlast, hwrite]
    rfl
  refine ⟨hescapes, hclear, rfl, hwritten, ?_⟩
  obtain ⟨filter, earlier, other, later, source, -, hfilter, hsplit, -, -, -, hsource, -, -, hparse,
      -⟩ :=
    parse_written_filter [pass] (List.forall_mem_singleton.2 hescapes) table hclear 1 path row
      (.string written) rfl hwritten nofun
  obtain rfl : written = filter := Json.string.inj hfilter
  obtain rfl : other = pass := by
    rcases List.singleton_eq_append_iff.1 hsplit with ⟨-, h⟩ | ⟨-, h⟩
    . exact (List.cons.inj h).1
    . contradiction
  obtain rfl := Option.some.inj hsource
  rw [hparse (by decide)]
  exact congrArg Except.ok (by decide)

end Pipeline
end ReportSegments
