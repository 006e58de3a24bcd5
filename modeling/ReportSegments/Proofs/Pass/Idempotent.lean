import ReportSegments.Proofs.Pass.FirstWriter
import ReportSegments.Proofs.Report.WalkedRows

/-!
This module contains that a second run of a pipeline changes nothing. After the first run every row
that some pass has a filter for has one, and what passes derive from is the same as before.
-/

namespace ReportSegments

/--
What a second run says about a pass. Only raw values are written again.
-/
def PassReport.again (report : PassReport) (pass : Pass) : PassReport :=
  match pass with
  | .presentation _ => report
  | _ => { report with annotated := 0 }

theorem Fields.has_of_get?_eq_keepOr {fields : Fields} {name s : String} {old : Option Json}
    (h : fields.get? name = Json.keepOr old (some s)) : fields.has name = true := by
  unfold has
  rw [h]
  cases old with
  | none => rfl
  | some value => cases value <;> rfl

namespace Pass

theorem LabelSource.value_congr (source : LabelSource) {row row' : Row}
    (hlabel : row.label = row'.label)
    (hold : row.metadata.get? Row.unformattedLabelKey =
      row'.metadata.get? Row.unformattedLabelKey) :
    LabelSource.value source row = LabelSource.value source row' := by
  unfold LabelSource.value Fields.string?
  rw [hlabel, hold]

theorem get?_present_congr (source : Option LabelSource) {row row' : Row}
    (hlabel : row.label = row'.label)
    (h : ∀ name ≠ Row.filterKey, row.metadata.get? name = row'.metadata.get? name) {name : String}
    (hfilter : name ≠ Row.filterKey) :
    (present source row).get? name = (present source row').get? name := by
  cases source with
  | none => exact h name hfilter
  | some source =>
    have hvalue := LabelSource.value_congr source hlabel (h Row.unformattedLabelKey (by decide))
    by_cases hname : name = Row.presentationKey
    . subst hname
      rw [present, present, Fields.get?_set_self, Fields.get?_set_self, hvalue]
    . rw [get?_present_of_ne _ _ hname, get?_present_of_ne _ _ hname]
      exact h name hfilter

/--
Of two raw values the later one stays.
-/
theorem present_present (first second : Option LabelSource) (row : Row) :
    present second { row with metadata := present first row } = present (second.or first) row := by
  cases second with
  | none => rfl
  | some second =>
    cases first with
    | none => rfl
    | some first =>
      have hvalue : LabelSource.value second { row with metadata := present (some first) row } =
          LabelSource.value second row := by
        apply LabelSource.value_congr
        . rfl
        . apply get?_present_of_ne
          decide
      rw [Option.some_or, present, hvalue]
      apply Fields.set_set

/--
Whether a row has a filter if the pass has one for it.
-/
def IsSettled (pass : Pass) (id : RowId) (row : Row) : Prop :=
  (pass.write? id row).isSome = true → row.metadata.has Row.filterKey = true

theorem IsSettled.congr {pass : Pass} {id : RowId} {row row' : Row} (h : pass.IsSettled id row)
    (hlabel : row.label = row'.label)
    (hvalue : row.metadata.get? Row.valueKey = row'.metadata.get? Row.valueKey)
    (hfilter : row.metadata.get? Row.filterKey = row'.metadata.get? Row.filterKey) :
    pass.IsSettled id row' := by
  unfold IsSettled Fields.has at h ⊢
  rwa [← write?_congr pass id hlabel hvalue, ← hfilter]

theorem edit?_of_isSettled {pass : Pass} {id : RowId} {row : Row} (hfault : pass.fault? = none)
    (h : pass.IsSettled id row) :
    pass.edit? id row = pass.presented?.map fun source => present (some source) row := by
  unfold edit?
  split
  . rfl
  . next hpass =>
    unfold IsSettled write? at h
    rw [hfault] at h
    dsimp only at h
    rw [presented?_of_ne hpass, Option.map_none]
    cases hderive : pass.derive? id row with
    | none => rfl
    | some filter =>
      rw [hderive] at h
      rw [Option.bind_some, Fields.setIfAbsent?, if_pos (h rfl)]

theorem edit_of_isSettled {pass : Pass} {id : RowId} {row : Row} (h : pass.IsSettled id row) :
    pass.edit id row = present pass.presented? row := by
  unfold edit
  split
  . next hfault =>
    rw [presented?_of_fault? hfault]
    rfl
  . next hfault =>
    rw [edit?_of_isSettled hfault h]
    cases pass.presented? <;> rfl

/--
What a pass reports about a table with `walked` rows in its walk, where all rows are settled.
-/
def settledReport (pass : Pass) (walked : Nat) : PassReport where
  pass := pass.name
  annotated := if pass.presented?.isSome then walked else 0
  error := pass.fault?

theorem snd_run (pass : Pass) (table : Table) :
    (pass.run table).2 = {
      pass := pass.name
      annotated :=
        if pass.fault?.isSome then
          0
        else
          table.walkedRows.countP (Rows.receives pass.edit?)
      error := pass.fault? } := by
  unfold run
  rw [apply_eq]
  cases pass.fault? <;> rfl

theorem snd_run_of_isSettled {pass : Pass} {table : Table}
    (h : ∀ entry ∈ table.walkedRows, pass.IsSettled entry.1 entry.2) :
    (pass.run table).2 = pass.settledReport table.walkedRows.length := by
  rw [snd_run, settledReport]
  congr 1
  cases hfault : pass.fault? with
  | some error =>
    rw [presented?_of_fault? hfault]
    rfl
  | none =>
    have hedit : ∀ entry ∈ table.walkedRows,
        Rows.receives pass.edit? entry = pass.presented?.isSome := by
      intro entry hentry
      unfold Rows.receives
      rw [edit?_of_isSettled hfault (h entry hentry), Option.isSome_map]
    rw [if_neg (by simp)]
    split
    . next hsome =>
      rw [List.countP_eq_length]
      intro entry hentry
      exact (hedit entry hentry).trans hsome
    . next hnone =>
      rw [List.countP_eq_zero]
      intro entry hentry
      rwa [hedit entry hentry]

theorem again_run (pass : Pass) (table : Table) :
    (pass.run table).2.again pass = pass.settledReport table.walkedRows.length := by
  cases pass with
  | presentation source =>
    rw [PassReport.again, snd_run_of_isSettled]
    intro entry hentry hwrite
    contradiction
  | _ =>
    rw [snd_run]
    rfl

end Pass

namespace Pipeline

/--
Where the raw values that a run leaves are taken from: later passes overwrite earlier ones.
-/
def presented? : Pipeline → Option LabelSource
  | [] => none
  | pass :: passes => (presented? passes).or pass.presented?

/--
Whether a row has a filter if some pass has one for it.
-/
def IsSettled (passes : Pipeline) (id : RowId) (row : Row) : Prop :=
  ∀ pass ∈ passes, pass.IsSettled id row

theorem IsSettled.congr {passes : Pipeline} {id : RowId} {row row' : Row}
    (h : passes.IsSettled id row) (hlabel : row.label = row'.label)
    (hvalue : row.metadata.get? Row.valueKey = row'.metadata.get? Row.valueKey)
    (hfilter : row.metadata.get? Row.filterKey = row'.metadata.get? Row.filterKey) :
    passes.IsSettled id row' := by
  intro pass hpass
  exact (h pass hpass).congr hlabel hvalue hfilter

theorem IsSettled.present {passes : Pipeline} {id : RowId} {row : Row}
    (h : passes.IsSettled id row) (source : Option LabelSource) :
    passes.IsSettled id { row with metadata := Pass.present source row } := by
  apply h.congr
  . rfl
  . symm
    apply Pass.get?_present_of_ne
    decide
  . symm
    apply Pass.get?_present_of_ne
    decide

theorem get?_edit (passes : Pipeline) (id : RowId) (row : Row) {name : String}
    (hfilter : name ≠ Row.filterKey) :
    (edit passes id row).get? name = (Pass.present (presented? passes) row).get? name := by
  induction passes generalizing row with
  | nil => rfl
  | cons pass passes ih =>
    rw [edit, ih, presented?, ← Pass.present_present]
    apply Pass.get?_present_congr
    . rfl
    . intro other hother
      exact Pass.get?_edit pass id row hother
    . exact hfilter

theorem get?_edit_of_ne (passes : Pipeline) (id : RowId) (row : Row) {name : String}
    (hfilter : name ≠ Row.filterKey) (hvalue : name ≠ Row.presentationKey) :
    (edit passes id row).get? name = row.metadata.get? name := by
  rw [get?_edit passes id row hfilter, Pass.get?_present_of_ne _ _ hvalue]

theorem isSettled_edit (passes : Pipeline) (id : RowId) (row : Row) :
    passes.IsSettled id { row with metadata := edit passes id row } := by
  intro pass hpass hwrite
  have hsame : pass.write? id { row with metadata := edit passes id row } = pass.write? id row := by
    apply Pass.write?_congr
    . rfl
    . apply get?_edit_of_ne
      . decide
      . decide
  rw [hsame] at hwrite
  have hfound : (passes.findSome? fun pass => pass.write? id row).isSome = true := by
    rw [List.findSome?_isSome_iff]
    exact ⟨pass, hpass, hwrite⟩
  obtain ⟨filter, hfilter⟩ := Option.isSome_iff_exists.1 hfound
  apply Fields.has_of_get?_eq_keepOr
  dsimp only
  rw [get?_edit_filterKey, hfilter]

theorem edit_of_isSettled {passes : Pipeline} {id : RowId} {row : Row}
    (h : passes.IsSettled id row) : edit passes id row = Pass.present (presented? passes) row := by
  induction passes generalizing row with
  | nil => rfl
  | cons pass passes ih =>
    rw [IsSettled, List.forall_mem_cons] at h
    have hrest : IsSettled passes id row := h.2
    rw [edit, Pass.edit_of_isSettled h.1, ih (hrest.present pass.presented?), presented?,
      Pass.present_present]

/--
After all passes a row stays as it is. Passes may write different raw values to it, but the last
one of them writes the value that is there already.
-/
theorem edit_edit (passes : Pipeline) (id : RowId) (row : Row) :
    edit passes id { row with metadata := edit passes id row } = edit passes id row := by
  rw [edit_of_isSettled (isSettled_edit passes id row)]
  cases hsource : presented? passes with
  | none => rfl
  | some source =>
    apply Fields.set_of_get?
    rw [get?_edit passes id row (by decide), hsource, Pass.present, Fields.get?_set_self]
    congr 2
    apply Pass.LabelSource.value_congr
    . rfl
    . symm
      apply get?_edit_of_ne
      . decide
      . decide

theorem fst_run_run (passes : Pipeline) (table : Table) :
    (run passes (run passes table).1).1 = (run passes table).1 := by
  rw [fst_run, fst_run, Rows.mapMetadata_mapMetadata _ (edit_subtable passes)]
  congr
  funext id row
  exact edit_edit passes id row

/--
Whether all rows of the walk have a filter if some pass has one for them.
-/
def Settles (passes : Pipeline) (table : Table) : Prop :=
  ∀ entry ∈ table.walkedRows, passes.IsSettled entry.1 entry.2

theorem settles_mapMetadata {passes : Pipeline} {f : RowId → Row → Fields} {table : Table}
    (h : ∀ entry ∈ table.walkedRows,
      passes.IsSettled entry.1 { entry.2 with metadata := f entry.1 entry.2 }) :
    passes.Settles (table.mapMetadata f) := by
  unfold Settles
  rw [Rows.walkedRows_mapMetadata, List.forall_mem_map]
  intro entry hentry
  obtain ⟨subtable, heq⟩ := Rows.exists_mapMetadataAt_eq f entry.1 entry.2
  dsimp only
  rw [heq]
  exact (h entry hentry).congr rfl rfl rfl

theorem settles_run (passes : Pipeline) (table : Table) : passes.Settles (run passes table).1 := by
  rw [fst_run]
  apply settles_mapMetadata
  intro entry hentry
  apply isSettled_edit

theorem snd_run_cons (pass : Pass) (passes : Pipeline) (table : Table) :
    (run (pass :: passes) table).2 = (pass.run table).2 :: (run passes (pass.run table).1).2 :=
  rfl

theorem snd_run_of_settles {passes : Pipeline} {table : Table} (h : passes.Settles table) :
    (run passes table).2 = passes.map (Pass.settledReport · table.walkedRows.length) := by
  induction passes generalizing table with
  | nil => rfl
  | cons pass passes ih =>
    have hpass : ∀ entry ∈ table.walkedRows, pass.IsSettled entry.1 entry.2 := by
      intro entry hentry
      exact h entry hentry pass List.mem_cons_self
    -- The pass writes no filter, so the passes behind it find their rows settled as before.
    have hpasses : Settles passes (pass.run table).1 := by
      rw [Pass.fst_run]
      apply settles_mapMetadata
      intro entry hentry
      rw [Pass.edit_of_isSettled (hpass entry hentry)]
      apply IsSettled.present
      intro later hlater
      exact h entry hentry later (List.mem_cons_of_mem pass hlater)
    rw [snd_run_cons, ih hpasses, Pass.snd_run_of_isSettled hpass, Pass.fst_run,
      Rows.length_walkedRows_mapMetadata, List.map_cons]

theorem zipWith_again_run (passes : Pipeline) (table : Table) :
    List.zipWith PassReport.again (run passes table).2 passes =
      passes.map (Pass.settledReport · table.walkedRows.length) := by
  induction passes generalizing table with
  | nil => rfl
  | cons pass passes ih =>
    rw [snd_run_cons, List.zipWith_cons_cons, ih, Pass.again_run, Pass.fst_run,
      Rows.length_walkedRows_mapMetadata, List.map_cons]

theorem length_snd_run (passes : Pipeline) (table : Table) :
    (run passes table).2.length = passes.length := by
  induction passes generalizing table with
  | nil => rfl
  | cons pass passes ih => exact congrArg Nat.succ (ih (pass.run table).1)

/--
A second run leaves the table as it is. It reports the same as the first run, except that no row
receives a filter.
-/
theorem run_run (passes : Pipeline) (table : Table) :
    let first := run passes table
    run passes first.1 = (first.1, List.zipWith PassReport.again first.2 passes) ∧
      first.2.length = passes.length := by
  refine ⟨?_, length_snd_run passes table⟩
  -- The reports of both runs follow from the number of rows in the walk.
  rw [zipWith_again_run]
  apply Prod.ext
  . exact fst_run_run passes table
  . rw [snd_run_of_settles (settles_run passes table), fst_run,
      Rows.length_walkedRows_mapMetadata]

end Pipeline
end ReportSegments
