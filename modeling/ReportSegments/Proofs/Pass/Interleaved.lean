import Mathlib.Data.List.Forall2
import ReportSegments.Proofs.Pass.Reports
import ReportSegments.Proofs.Report.Bare

/-!
This module contains that filter passes and presentation passes do not interfere. In whatever way
they are mixed, as long as the passes of each kind keep their order, a run leaves the same table up
to the order of metadata, and reports the same about each pass.
-/

namespace ReportSegments

/--
The ways to mix two lists into one in which the members of both are in their order.
-/
inductive Interleaves : List α → List α → List α → Prop where
  | nil : Interleaves [] [] []
  | left (x : α) {xs ys zs : List α} (h : Interleaves xs ys zs) :
    Interleaves (x :: xs) ys (x :: zs)
  | right (y : α) {xs ys zs : List α} (h : Interleaves xs ys zs) :
    Interleaves xs (y :: ys) (y :: zs)

namespace Rows

/--
Whether two tables are the same up to the order in which rows have their metadata.
-/
structure EqUpToOrder (first second : Table) : Prop where
  bare : first.bare = second.bare
  metadata : List.Forall₂
    (fun a b => a.1 = b.1 ∧ a.2.metadata.entries.Perm b.2.metadata.entries)
    first.flatten second.flatten

theorem mapMetadata_eqUpToOrder {f g : RowId → Row → Fields}
    (h : ∀ id row name, (f id row).get? name = (g id row).get? name) (table : Table) :
    (table.mapMetadata f).EqUpToOrder (table.mapMetadata g) := by
  refine ⟨?_, ?_⟩
  . rw [bare_mapMetadata, bare_mapMetadata]
  . rw [flatten_mapMetadata, flatten_mapMetadata, List.forall₂_map_left_iff,
      List.forall₂_map_right_iff, List.forall₂_same]
    intro entry hentry
    refine ⟨rfl, ?_⟩
    dsimp only
    rw [metadata_mapMetadataAt, metadata_mapMetadataAt]
    split
    . exact Fields.perm_of_get?_eq (h _ entry.2)
    . exact .refl _

/--
Whether filter passes cannot tell two rows from each other: only raw values may be different.
-/
def AlikeRow (first second : RowId × Row) : Prop :=
  first.1 = second.1 ∧ first.2.label = second.2.label ∧
    ∀ name ≠ Row.presentationKey, first.2.metadata.get? name = second.2.metadata.get? name

/--
Whether filter passes cannot tell two tables from each other.
-/
def Alike (first second : Table) : Prop :=
  List.Forall₂ AlikeRow first.walkedRows second.walkedRows

theorem alike_refl (table : Table) : table.Alike table :=
  List.forall₂_same.2 fun _ _ => ⟨rfl, rfl, fun _ _ => rfl⟩

theorem alike_mapMetadata {f g : RowId → Row → Fields} {first second : Table}
    (h : List.Forall₂
      (fun a b => AlikeRow (a.1, { a.2 with metadata := f a.1 a.2 })
        (b.1, { b.2 with metadata := g b.1 b.2 }))
      first.walkedRows second.walkedRows) :
    (first.mapMetadata f).Alike (second.mapMetadata g) := by
  unfold Alike
  rw [walkedRows_mapMetadata, walkedRows_mapMetadata, List.forall₂_map_left_iff,
    List.forall₂_map_right_iff]
  apply h.imp
  intro a b hab
  obtain ⟨below, ha⟩ := exists_mapMetadataAt_eq f a.1 a.2
  obtain ⟨below', hb⟩ := exists_mapMetadataAt_eq g b.1 b.2
  dsimp only
  rw [ha, hb]
  exact hab

end Rows

namespace Pass

open Rows (AlikeRow Alike)

/--
Whether a pass writes raw values at all.
-/
def isActive (pass : Pass) : Bool :=
  pass.presented?.isSome

theorem fills_of_alikeRow (pass : Pass) {first second : RowId × Row}
    (h : AlikeRow first second) : pass.fills first = pass.fills second := by
  obtain ⟨hid, hlabel, hget⟩ := h
  unfold fills
  rw [hget Row.filterKey (by decide), hid,
    write?_congr pass second.1 hlabel (hget Row.valueKey (by decide))]

theorem countP_fills_of_alikeRow (pass : Pass) {first second : List (RowId × Row)}
    (h : List.Forall₂ AlikeRow first second) :
    first.countP pass.fills = second.countP pass.fills := by
  induction h with
  | nil => rfl
  | cons hrow hrows ih => rw [List.countP_cons, List.countP_cons, ih, fills_of_alikeRow pass hrow]

theorem alikeRow_edit_edit (pass : Pass) {first second : RowId × Row}
    (h : AlikeRow first second) :
    AlikeRow (first.1, { first.2 with metadata := pass.edit first.1 first.2 })
      (second.1, { second.2 with metadata := pass.edit second.1 second.2 }) := by
  obtain ⟨hid, hlabel, hget⟩ := h
  refine ⟨hid, hlabel, ?_⟩
  intro name hname
  dsimp only
  by_cases hfilter : name = Row.filterKey
  . subst hfilter
    rw [get?_edit_filterKey, get?_edit_filterKey, hget Row.filterKey (by decide), hid,
      write?_congr pass second.1 hlabel (hget Row.valueKey (by decide))]
  . rw [get?_edit_of_ne _ _ _ hfilter hname, get?_edit_of_ne _ _ _ hfilter hname]
    exact hget name hname

theorem alikeRow_edit {pass : Pass} (hkind : pass.isPresentation = true)
    {first second : RowId × Row} (h : AlikeRow first second) :
    AlikeRow (first.1, { first.2 with metadata := pass.edit first.1 first.2 }) second := by
  obtain ⟨hid, hlabel, hget⟩ := h
  refine ⟨hid, hlabel, ?_⟩
  intro name hname
  rw [← hget name hname]
  dsimp only
  by_cases hfilter : name = Row.filterKey
  . subst hfilter
    rw [get?_edit_filterKey, write?_of_isPresentation hkind, Json.keepOr_none]
  . rw [get?_edit_of_ne _ _ _ hfilter hname]

/--
A filter pass reports the same about tables that it cannot tell from each other, and leaves such
tables.
-/
theorem alike_run_run {pass : Pass} (hkind : pass.isPresentation = false) {first second : Table}
    (h : first.Alike second) :
    (pass.run first).2 = (pass.run second).2 ∧ (pass.run first).1.Alike (pass.run second).1 := by
  constructor
  . rw [snd_run_of_filter hkind, snd_run_of_filter hkind, countP_fills_of_alikeRow pass h]
  . rw [fst_run, fst_run]
    apply Rows.alike_mapMetadata
    exact h.imp fun _ _ => alikeRow_edit_edit pass

theorem alike_run {pass : Pass} (hkind : pass.isPresentation = true) {first second : Table}
    (h : first.Alike second) : (pass.run first).1.Alike second := by
  rw [fst_run, ← Rows.mapMetadata_metadata second]
  apply Rows.alike_mapMetadata
  exact h.imp fun _ _ => alikeRow_edit hkind

end Pass

namespace Pipeline

variable {filters presentations passes : Pipeline}

/--
The filter passes of a run report what they report when they run alone.
-/
theorem reportsOf_filters (h : Interleaves filters presentations passes)
    (hfilters : ∀ pass ∈ filters, pass.isPresentation = false)
    (hpresentations : ∀ pass ∈ presentations, pass.isPresentation = true) {first second : Table}
    (halike : first.Alike second) :
    reportsOf (!·.isPresentation) passes first = (run filters second).2 := by
  induction h generalizing first second with
  | nil => rfl
  | left pass h ih =>
    rw [List.forall_mem_cons] at hfilters
    obtain ⟨hreport, hnext⟩ := Pass.alike_run_run hfilters.1 halike
    rw [reportsOf_cons, snd_run_cons, hfilters.1, if_pos (by decide), hreport,
      ih hfilters.2 hpresentations hnext]
  | right pass h ih =>
    rw [List.forall_mem_cons] at hpresentations
    rw [reportsOf_cons, hpresentations.1, if_neg (by decide)]
    exact ih hfilters hpresentations.2 (Pass.alike_run hpresentations.1 halike)

theorem reportsOf_presentations (h : Interleaves filters presentations passes)
    (hfilters : ∀ pass ∈ filters, pass.isPresentation = false)
    (hpresentations : ∀ pass ∈ presentations, pass.isPresentation = true) {first second : Table}
    (hwalked : first.walkedRows.length = second.walkedRows.length) :
    reportsOf Pass.isPresentation passes first = (run presentations second).2 := by
  induction h generalizing first second with
  | nil => rfl
  | left pass h ih =>
    rw [List.forall_mem_cons] at hfilters
    rw [reportsOf_cons, hfilters.1, if_neg (by decide)]
    exact ih hfilters.2 hpresentations ((pass.length_walkedRows_run first).trans hwalked)
  | right pass h ih =>
    rw [List.forall_mem_cons] at hpresentations
    have hreport : (pass.run first).2 = (pass.run second).2 := by
      obtain ⟨source, rfl⟩ := Pass.exists_eq_presentation hpresentations.1
      rw [Pass.snd_run_presentation, Pass.snd_run_presentation, hwalked]
    rw [reportsOf_cons, snd_run_cons, hpresentations.1, if_pos rfl, hreport]
    congr 1
    apply ih hfilters hpresentations.2
    rw [pass.length_walkedRows_run, pass.length_walkedRows_run, hwalked]

theorem findSome?_write?_of_interleaves (h : Interleaves filters presentations passes)
    (hpresentations : ∀ pass ∈ presentations, pass.isPresentation = true) (id : RowId) (row : Row) :
    (passes.findSome? fun pass => pass.write? id row) =
      filters.findSome? fun pass => pass.write? id row := by
  induction h with
  | nil => rfl
  | left pass h ih => rw [List.findSome?_cons, List.findSome?_cons, ih hpresentations]
  | right pass h ih =>
    rw [List.forall_mem_cons] at hpresentations
    rw [List.findSome?_cons, Pass.write?_of_isPresentation hpresentations.1,
      ih hpresentations.2]

theorem presented?_of_interleaves (h : Interleaves filters presentations passes)
    (hfilters : ∀ pass ∈ filters, pass.isPresentation = false) :
    presented? passes = presented? presentations := by
  induction h with
  | nil => rfl
  | left pass h ih =>
    rw [List.forall_mem_cons] at hfilters
    rw [presented?, Pass.presented?_of_isPresentation hfilters.1, Option.or_none, ih hfilters.2]
  | right pass h ih => rw [presented?, presented?, ih hfilters]

/--
What is found in the metadata of a row after a run depends on the two lists of passes alone.
-/
theorem get?_edit_of_interleaves {first second : Pipeline}
    (hfirst : Interleaves filters presentations first)
    (hsecond : Interleaves filters presentations second)
    (hfilters : ∀ pass ∈ filters, pass.isPresentation = false)
    (hpresentations : ∀ pass ∈ presentations, pass.isPresentation = true) (id : RowId) (row : Row)
    (name : String) : (edit first id row).get? name = (edit second id row).get? name := by
  by_cases hname : name = Row.filterKey
  . subst hname
    rw [get?_edit_filterKey, get?_edit_filterKey,
      findSome?_write?_of_interleaves hfirst hpresentations,
      findSome?_write?_of_interleaves hsecond hpresentations]
  . rw [get?_edit first id row hname, get?_edit second id row hname,
      presented?_of_interleaves hfirst hfilters, presented?_of_interleaves hsecond hfilters]

/--
The last active presentation pass is the one whose raw values stay.
-/
theorem presented?_map_presentationValue (segments : List (Option Segment)) :
    presented? (segments.map Pass.presentationValue) =
      (segments.filter fun segment => (Pass.presentationValue segment).isActive).getLast?.bind
        fun segment => (Pass.presentationValue segment).presented? := by
  induction segments with
  | nil => rfl
  | cons segment segments ih =>
    rw [List.map_cons, presented?, ih, List.filter_cons, Pass.isActive]
    cases hsource : (Pass.presentationValue segment).presented? with
    | none => rw [Option.or_none, Option.isSome_none, if_neg Bool.false_ne_true]
    | some source =>
      rw [Option.isSome_some, if_pos rfl, List.getLast?_cons]
      cases hlast : (segments.filter fun segment =>
          (Pass.presentationValue segment).isActive).getLast? with
      | none => rw [Option.bind_none, Option.none_or, Option.getD_none, Option.bind_some, hsource]
      | some last =>
        have hactive := (List.mem_filter.1 (List.mem_of_getLast? hlast)).2
        obtain ⟨later, hlater⟩ := Option.isSome_iff_exists.1 hactive
        rw [Option.getD_some, Option.bind_some, hlater, Option.some_or]

theorem presented?_presentationValue {segment : Option Segment} {source : LabelSource}
    (h : (Pass.presentationValue segment).presented? = some source) :
    ∃ found, segment = some found ∧
      source = if found.customValueFilter then .shown else .unformatted := by
  unfold Pass.presentationValue Pass.presented? at h
  obtain ⟨found, hfound, rfl⟩ := Option.map_eq_some_iff.1 h
  exact ⟨found, (Option.filter_eq_some_iff.1 hfound).1, rfl⟩

/--
The raw value that a row has after a run in which a presentation pass is active.
-/
theorem get?_edit_presentationKey {passes : Pipeline} {source : LabelSource}
    (h : presented? passes = some source) (id : RowId) (row : Row) :
    (edit passes id row).get? Row.presentationKey =
      some (.string (Pass.LabelSource.value source row)) := by
  rw [get?_edit passes id row (by decide), h, Pass.present, Fields.get?_set_self]

theorem value_labelSource (shown : Bool) (row : Row) :
    Pass.LabelSource.value (if shown then .shown else .unformatted) row =
      if shown then
        row.label
      else
        (row.metadata.string? Row.unformattedLabelKey).getD row.label := by
  cases shown <;> rfl

theorem exists_last_presented? {segments : List (Option Segment)}
    (h : ∃ segment ∈ segments, (Pass.presentationValue segment).isActive = true) :
    ∃ segment,
      (segments.filter fun segment => (Pass.presentationValue segment).isActive).getLast? =
        some (some segment) ∧
      presented? (segments.map Pass.presentationValue) =
        some (if segment.customValueFilter then .shown else .unformatted) := by
  obtain ⟨active, hmem, hactive⟩ := h
  have hne : (segments.filter fun segment => (Pass.presentationValue segment).isActive) ≠ [] :=
    List.ne_nil_of_mem (List.mem_filter.2 ⟨hmem, hactive⟩)
  have hlast := List.getLast?_eq_some_getLast hne
  obtain ⟨source, hsource⟩ := Option.isSome_iff_exists.1
    (List.mem_filter.1 (List.mem_of_getLast? hlast)).2
  obtain ⟨segment, hsegment, rfl⟩ := presented?_presentationValue hsource
  refine ⟨segment, ?_, ?_⟩
  . rw [hlast, hsegment]
  . rw [presented?_map_presentationValue, hlast, Option.bind_some, hsource]

theorem presentationKey_run {passes : Pipeline} {source : LabelSource}
    (h : presented? passes = some source) (table : Table) :
    List.Forall₂
      (fun before after =>
        after.1 = before.1 ∧
        (RowId.summary ∉ before.1.dropLast →
          after.2.metadata.get? Row.presentationKey =
            some (.string (Pass.LabelSource.value source before.2))))
      table.flatten (run passes table).1.flatten := by
  rw [fst_run]
  apply Rows.forall₂_flatten_mapMetadata
  intro ⟨path, row⟩ hentry
  refine ⟨rfl, ?_⟩
  intro hregular
  have hlast := List.getLast?_eq_some_getLast (Rows.ne_nil_of_mem_flatten hentry)
  rw [← Rows.isWalked_eq_false_iff, Bool.not_eq_false] at hregular
  dsimp only at hregular hlast ⊢
  rw [Rows.metadata_mapMetadataAt, hregular, hlast]
  exact get?_edit_presentationKey h _ row

/--
All ways to mix filter passes and presentation passes leave the same table up to the order of
metadata and report the same about every pass. If a presentation pass is active, every row of the
walk has the raw value by the segment of the last such pass.
-/
theorem run_interleaves {filters first second : Pipeline} {segments : List (Option Segment)}
    (hfilters : ∀ pass ∈ filters, pass.isPresentation = false)
    (hfirst : Interleaves filters (segments.map Pass.presentationValue) first)
    (hsecond : Interleaves filters (segments.map Pass.presentationValue) second) (table : Table) :
    (run first table).1.EqUpToOrder (run second table).1 ∧
    reportsOf (!·.isPresentation) first table = reportsOf (!·.isPresentation) second table ∧
    reportsOf Pass.isPresentation first table = reportsOf Pass.isPresentation second table ∧
    ((∃ segment ∈ segments, (Pass.presentationValue segment).isActive = true) →
      ∃ segment,
        (segments.filter fun segment => (Pass.presentationValue segment).isActive).getLast? =
          some (some segment) ∧
        List.Forall₂
          (fun before after =>
            after.1 = before.1 ∧
            (RowId.summary ∉ before.1.dropLast →
              after.2.metadata.get? Row.presentationKey =
                some (.string
                  (if segment.customValueFilter then
                    before.2.label
                  else
                    (before.2.metadata.string? Row.unformattedLabelKey).getD before.2.label))))
          table.flatten (run first table).1.flatten) := by
  have hpresentations : ∀ pass ∈ segments.map Pass.presentationValue,
      pass.isPresentation = true := by
    rw [List.forall_mem_map]
    exact fun _ _ => rfl
  refine ⟨?_, ?_, ?_, ?_⟩
  . rw [fst_run, fst_run]
    apply Rows.mapMetadata_eqUpToOrder
    exact get?_edit_of_interleaves hfirst hsecond hfilters hpresentations
  . rw [reportsOf_filters hfirst hfilters hpresentations (Rows.alike_refl table),
      reportsOf_filters hsecond hfilters hpresentations (Rows.alike_refl table)]
  . rw [reportsOf_presentations hfirst hfilters hpresentations rfl,
      reportsOf_presentations hsecond hfilters hpresentations rfl]
  . intro hactive
    obtain ⟨segment, hlast, hsource⟩ := exists_last_presented? hactive
    have hvalues := presentationKey_run
      ((presented?_of_interleaves hfirst hfilters).trans hsource) table
    simp only [value_labelSource] at hvalues
    exact ⟨segment, hlast, hvalues⟩

theorem run_interleaves_mixed :
    let filters : Pipeline := [.byLabel [] "-" false, .single "city" true]
    let segments : List (Option Segment) :=
      [some { key := "city", customValueFilter := true }, some { key := "city" }, none]
    let present := Pass.presentationValue
    let first := filters ++ segments.map present
    let second : Pipeline :=
      [present segments[0], filters[0], present segments[1], filters[1], present segments[2]]
    let table : Table :=
      { rows := [
          { label := "Rome", metadata := .ofList [(Row.unformattedLabelKey, .string "roma")] }]
        summary := some { label := "Others", subtable := some (.ofLabels ["Oslo"]) } }
    let keys (table : Table) := table.flatten.map fun entry => entry.2.metadata.entries.map Prod.fst
    (∀ pass ∈ filters, pass.isPresentation = false) ∧
      Interleaves filters (segments.map present) first ∧
      Interleaves filters (segments.map present) second ∧
      (run first table).1.EqUpToOrder (run second table).1 ∧
      keys (run first table).1 =
        [["original_label", "segmentFilter", "segment_value"], ["segment_value"], []] ∧
      keys (run second table).1 =
        [["original_label", "segment_value", "segmentFilter"], ["segment_value"], []] ∧
      (run second table).1.flatten.map
          (fun entry => entry.2.metadata.string? Row.presentationKey) =
        [some "roma", some "Others", none] := by
  intro filters segments present first second table keys
  have hfilters : ∀ pass ∈ filters, pass.isPresentation = false := by decide
  have hfirst : Interleaves filters (segments.map present) first :=
    .left _ (.left _ (.right _ (.right _ (.right _ .nil))))
  have hsecond : Interleaves filters (segments.map present) second :=
    .right _ (.left _ (.right _ (.left _ (.right _ .nil))))
  have hruns := run_interleaves hfilters hfirst hsecond table
  exact ⟨hfilters, hfirst, hsecond, hruns.1, by decide, by decide, by decide⟩

end Pipeline
end ReportSegments
