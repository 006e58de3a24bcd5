import ReportSegments.Config.Basic
import ReportSegments.Raw.Record
import ReportSegments.Report.Reader
import ReportSegments.Toml.Parser

/-!
This module contains the reading of configurations from TOML. Whatever is not given keeps its
default; unknown keys are skipped.
-/

namespace ReportSegments

open Raw (RecordStyle)

/--
Records of a configuration: also as the list of their fields, with anything behind it.
-/
def Toml.records : RecordStyle := ⟨true, true⟩

/--
The fields of a pass: also as a list, with nothing behind it.
-/
def Toml.passRecords : RecordStyle := ⟨true, false⟩

/--
Reads the display name of a segment. Both fields must be given.
-/
def Raw.registered? (raw : Raw) : Option (String × String) := do
  let fields ← raw.record? Toml.records ["key", "name"]
  return (← Raw.required? fields "key" Raw.text?, ← Raw.required? fields "name" Raw.text?)

def Raw.layoutRules? (raw : Raw) : Option LayoutRules := do
  let fields ← raw.record? Toml.records
    ["recursive_label_separator", "max_label_length", "truncation_marker", "no_data_label"]
  return {
    separator := ← Raw.field? fields "recursive_label_separator" "" Raw.text?
    maxLabelLength :=
      ← Raw.field? fields "max_label_length" none (Raw.nullable? (Raw.nat? 18446744073709551616))
    truncationMarker := ← Raw.field? fields "truncation_marker" "..." Raw.text?
    noDataLabel := ← Raw.field? fields "no_data_label" "No data" Raw.text?
  }

def Raw.escapeLabels? (raw : Raw) : Option Bool := do
  let fields ← raw.record? Toml.records ["escape_labels"]
  Raw.field? fields "escape_labels" false Raw.bool?

def Raw.namedPass? (name : String) (raw : Raw) : Option PassConfig := do
  if name = "segment" then
    let fields ← raw.record? Toml.passRecords ["segments", "delimiter"]
    return .segment (← Raw.required? fields "segments" (Raw.list? Raw.text?))
      (← Raw.field? fields "delimiter" "" Raw.text?)
  else if name = "label_mapping" then
    let fields ← raw.record? Toml.passRecords ["segment", "mapping"]
    return .labelMapping (← Raw.field? fields "segment" none (Raw.nullable? Raw.text?))
      (← Raw.field? fields "mapping" none (Raw.nullable? Raw.valueTable?))
  else if name = "segment_value" then
    let _ ← raw.record? Toml.passRecords []
    return .segmentValue
  else if name = "presentation_value" then
    let _ ← raw.record? Toml.passRecords []
    return .presentationValue
  else
    none

/--
Reads a pass: a table that has its name under `pass`, or a list that starts with its name.
-/
def Raw.pass? : Raw → Option PassConfig
  | .table entries =>
    match entries.lookup (some "pass") with
    | some (.text name) => Raw.namedPass? name (.table entries)
    | _ => none
  | .list (.text name :: fields) => Raw.namedPass? name (.list fields)
  | _ => none

def Raw.config? (raw : Raw) : Option Config := do
  let fields ← raw.record? Toml.records
    ["profile_name", "grammar", "recompose", "segments", "pipeline"]
  return {
    profileName := ← Raw.field? fields "profile_name" "base" Raw.text?
    escapeLabels := ← Raw.field? fields "grammar" false Raw.escapeLabels?
    layout := ← Raw.field? fields "recompose" {} Raw.layoutRules?
    segments :=
      ← Raw.field? fields "segments" {} fun raw =>
        (raw.list? Raw.registered?).map Registry.mk
    pipeline :=
      ← Raw.field? fields "pipeline" [.segmentValue, .presentationValue] (Raw.list? Raw.pass?)
  }

def Config.parse? (s : String) : Option Config :=
  (Toml.read? s).bind Raw.config?

end ReportSegments
