import ReportSegments.Pass.Pipeline
import ReportSegments.Proofs.Json.Fields
import ReportSegments.Proofs.Report.Annotate

/-!
This module contains the view of a run row by row. A pass gives each row of the walk metadata that
depend on this row alone, without its sub-table; so all passes of a run can as well go over one row
before they come to the next.
-/

namespace ReportSegments

namespace Pass

/--
The metadata of a row after a pass.
-/
def edit (pass : Pass) (id : RowId) (row : Row) : Fields :=
  match pass.fault? with
  | some _ => row.metadata
  | none => (pass.edit? id row).getD row.metadata

theorem edit?_subtable (pass : Pass) (id : RowId) (row : Row) (subtable : Option Table) :
    pass.edit? id { row with subtable } = pass.edit? id row := by
  cases pass <;> rfl

theorem edit_subtable (pass : Pass) (id : RowId) (row : Row) (subtable : Option Table) :
    pass.edit id { row with subtable } = pass.edit id row := by
  unfold edit
  rw [edit?_subtable]

theorem edit_of_fault? {pass : Pass} {error : ConfigurationError} (h : pass.fault? = some error) :
    pass.edit = fun _ row => row.metadata := by
  funext id row
  unfold edit
  rw [h]

theorem edit_of_no_fault {pass : Pass} (h : pass.fault? = none) :
    pass.edit = Rows.written pass.edit? := by
  funext id row
  unfold edit
  rw [h]
  rfl

/--
A pass that can be applied writes and counts on one walk; one that cannot leaves the table alone.
-/
theorem apply_eq (pass : Pass) (table : Table) :
    pass.apply table =
      (match pass.fault? with
        | some error => .error error
        | none => .ok (table.walkedRows.countP (Rows.receives pass.edit?)),
      table.mapMetadata pass.edit) := by
  unfold apply
  cases hfault : pass.fault? with
  | some error =>
    rw [edit_of_fault? hfault, Rows.mapMetadata_metadata]
  | none =>
    rw [edit_of_no_fault hfault, Rows.annotate_eq, Nat.zero_add]

theorem fst_run (pass : Pass) (table : Table) :
    (pass.run table).1 = table.mapMetadata pass.edit := by
  unfold run
  rw [apply_eq]
  cases pass.fault? <;> rfl

/--
Where a pass takes the raw values that it writes from.
-/
def presented? : Pass → Option LabelSource
  | presentation source => source
  | _ => none

/--
The metadata of a row with the raw value behind it.
-/
def present : Option LabelSource → Row → Fields
  | none, row => row.metadata
  | some source, row =>
    row.metadata.set Row.presentationKey (.string (LabelSource.value source row))

theorem get?_present_of_ne (source : Option LabelSource) (row : Row) {name : String}
    (hne : name ≠ Row.presentationKey) :
    (present source row).get? name = row.metadata.get? name := by
  cases source with
  | none => rfl
  | some source =>
    apply Fields.get?_set_of_ne
    exact hne

theorem presented?_of_fault? {pass : Pass} {error : ConfigurationError}
    (h : pass.fault? = some error) : pass.presented? = none := by
  cases pass with
  | presentation source => contradiction
  | _ => rfl

theorem presented?_of_ne {pass : Pass} (h : ∀ source, pass ≠ presentation source) :
    pass.presented? = none := by
  cases pass with
  | presentation source => exact absurd rfl (h source)
  | _ => rfl

/--
But for the filter, a pass changes nothing except the raw value.
-/
theorem get?_edit (pass : Pass) (id : RowId) (row : Row) {name : String}
    (hfilter : name ≠ Row.filterKey) :
    (pass.edit id row).get? name = (present pass.presented? row).get? name := by
  unfold edit
  cases hfault : pass.fault? with
  | some error =>
    rw [presented?_of_fault? hfault]
    rfl
  | none =>
    dsimp only
    unfold edit?
    split
    . next source => cases source <;> rfl
    . next hpass =>
      rw [presented?_of_ne hpass]
      cases pass.derive? id row with
      | none => rfl
      | some filter =>
        rw [Option.bind_some, Fields.setIfAbsent?]
        split
        . rfl
        . apply Fields.get?_set_of_ne
          exact hfilter

theorem get?_edit_of_ne (pass : Pass) (id : RowId) (row : Row) {name : String}
    (hfilter : name ≠ Row.filterKey) (hvalue : name ≠ Row.presentationKey) :
    (pass.edit id row).get? name = row.metadata.get? name := by
  rw [get?_edit pass id row hfilter, get?_present_of_ne _ _ hvalue]

end Pass

namespace Pipeline

def edit : Pipeline → RowId → Row → Fields
  | [], _, row => row.metadata
  | pass :: passes, id, row => edit passes id { row with metadata := pass.edit id row }

theorem edit_subtable (passes : Pipeline) (id : RowId) (row : Row) (subtable : Option Table) :
    edit passes id { row with subtable } = edit passes id row := by
  induction passes generalizing row with
  | nil => rfl
  | cons pass passes ih =>
    unfold edit
    rw [pass.edit_subtable]
    exact ih { row with metadata := pass.edit id row }

/--
A run is one walk, in which every row goes through all passes.
-/
theorem fst_run (passes : Pipeline) (table : Table) :
    (run passes table).1 = table.mapMetadata (edit passes) := by
  induction passes generalizing table with
  | nil =>
    have hedit : edit [] = fun _ row => row.metadata := rfl
    rw [hedit, Rows.mapMetadata_metadata]
    rfl
  | cons pass passes ih =>
    -- The walk of the first pass and that of the others are one walk.
    have hrun : (run (pass :: passes) table).1 = (run passes (pass.run table).1).1 := rfl
    rw [hrun, ih, pass.fst_run, Rows.mapMetadata_mapMetadata _ (edit_subtable passes)]
    rfl

end Pipeline
end ReportSegments
