import ReportSegments.Proofs.Pass.Rowwise

/-!
This module contains which pass of a run writes the filter of a row: the first one that has an
expression for the row, unless the row has a filter already.
-/

namespace ReportSegments

/--
What becomes of an entry of the metadata when a text is found for it: it stays unless it is absent
or `null`.
-/
def Json.keepOr (old : Option Json) (found : Option String) : Option Json :=
  match old, found with
  | none, some s => some (.string s)
  | some .null, some s => some (.string s)
  | old, _ => old

namespace Json

theorem keepOr_none (old : Option Json) : keepOr old none = old := by
  unfold keepOr
  split <;> simp_all

theorem keepOr_keepOr (old : Option Json) (first second : Option String) :
    keepOr (keepOr old first) second = keepOr old (first.or second) := by
  cases first with
  | none =>
    rw [keepOr_none, Option.none_or]
  | some s =>
    rw [Option.some_or]
    cases old with
    | none => rfl
    | some value => cases value <;> rfl

end Json

theorem Fields.get?_setIfAbsent? (fields : Fields) (name s : String) :
    ((fields.setIfAbsent? name (.string s)).getD fields).get? name =
      Json.keepOr (fields.get? name) (some s) := by
  unfold setIfAbsent? has
  cases hget : fields.get? name with
  | none => simp [Json.keepOr]
  | some value => cases value <;> simp [Json.keepOr, Json.isNull, hget]

namespace Pass

/--
The expression that a pass writes for a row without a filter. A pass that cannot be applied writes
none.
-/
def write? (pass : Pass) (id : RowId) (row : Row) : Option String :=
  match pass.fault? with
  | some _ => none
  | none => pass.derive? id row

theorem get?_edit?_filterKey (pass : Pass) (id : RowId) (row : Row) :
    ((pass.edit? id row).getD row.metadata).get? Row.filterKey =
      Json.keepOr (row.metadata.get? Row.filterKey) (pass.derive? id row) := by
  unfold edit?
  split
  . next source =>
    have hderive : (presentation source).derive? id row = none := rfl
    rw [hderive, Json.keepOr_none]
    cases source with
    | none => rfl
    | some source =>
      apply Fields.get?_set_of_ne
      decide
  . cases pass.derive? id row with
    | none =>
      rw [Json.keepOr_none]
      rfl
    | some filter =>
      rw [Option.bind_some]
      apply Fields.get?_setIfAbsent?

theorem get?_edit_filterKey (pass : Pass) (id : RowId) (row : Row) :
    (pass.edit id row).get? Row.filterKey =
      Json.keepOr (row.metadata.get? Row.filterKey) (pass.write? id row) := by
  unfold edit write?
  cases pass.fault? with
  | some error =>
    dsimp
    rw [Json.keepOr_none]
  | none =>
    dsimp
    rw [get?_edit?_filterKey]

theorem write?_congr (pass : Pass) (id : RowId) {row row' : Row} (hlabel : row.label = row'.label)
    (hvalue : row.metadata.get? Row.valueKey = row'.metadata.get? Row.valueKey) :
    pass.write? id row = pass.write? id row' := by
  unfold write? derive?
  rw [hlabel, hvalue]

end Pass

namespace Pipeline

/--
A row keeps its filter, or else gets that of the first pass that writes one.
-/
theorem get?_edit_filterKey (passes : Pipeline) (id : RowId) (row : Row) :
    (edit passes id row).get? Row.filterKey =
      Json.keepOr (row.metadata.get? Row.filterKey)
        (passes.findSome? fun pass => pass.write? id row) := by
  induction passes generalizing row with
  | nil =>
    rw [List.findSome?_nil, Json.keepOr_none]
    rfl
  | cons pass passes ih =>
    -- What later passes derive from, label and value, is the same after this pass.
    have hsame (later : Pass) :
        later.write? id { row with metadata := pass.edit id row } = later.write? id row := by
      apply Pass.write?_congr
      . rfl
      . apply Pass.get?_edit_of_ne
        . decide
        . decide
    have hor : ((pass :: passes).findSome? fun pass => pass.write? id row) =
        (pass.write? id row).or (passes.findSome? fun pass => pass.write? id row) := by
      rw [List.findSome?_cons]
      cases pass.write? id row <;> rfl
    unfold edit
    rw [ih, Pass.get?_edit_filterKey, Json.keepOr_keepOr, hor]
    simp only [hsame]

end Pipeline
end ReportSegments
