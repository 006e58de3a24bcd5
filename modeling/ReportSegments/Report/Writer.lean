import ReportSegments.Json.Basic
import ReportSegments.Report.Document

/-!
This module contains the JSON form of report documents. What is absent is left out.
-/

namespace ReportSegments

/--
A member that is left out if it has no value.
-/
def Json.optional (name : String) (value : Option Json) : List (String × Json) :=
  value.toList.map (name, ·)

def ValueTable.json (table : ValueTable) : Json :=
  .object (table.entries.map fun (label, value) => (label, .string value))

def Segment.json (segment : Segment) : Json :=
  .object <|
    ("key", .string segment.key) ::
      Json.optional "name" (segment.name.map .string) ++
      Json.optional "label_to_value" (segment.valueOfLabel.map ValueTable.json) ++
      [("has_custom_resolver", .bool segment.hasCustomResolver),
        ("custom_value_filter", .bool segment.customValueFilter),
        ("suggested_values_hook", .bool segment.suggestedValuesHook)]

def Dimension.json (dimension : Dimension) : Json :=
  .object <|
    Json.optional "name" (dimension.name.map .string) ++
      [("segments", .array (dimension.segments.map Segment.json))]

mutual

def Rows.json : Table → Json
  | ⟨rows, summary⟩ =>
    .object (("rows", .array (Row.jsonRows rows)) ::
      Json.optional "summary_row" (Row.jsonSummary summary))

def Row.json : Row → Json
  | ⟨label, columns, metadata, subtable, level⟩ =>
    .object <|
      ("label", .string label) :: ("columns", .object columns.entries) ::
        ("metadata", .object metadata.entries) ::
        (Json.optional "subtable" (Row.jsonSubtable subtable) ++
          Json.optional "level" (level.map fun level => .ofNat level.toNat))

def Row.jsonRows : List Row → List Json
  | [] => []
  | row :: rows => Row.json row :: Row.jsonRows rows

def Row.jsonSummary : Option Row → Option Json
  | none => none
  | some row => some (Row.json row)

def Row.jsonSubtable : Option Table → Option Json
  | none => none
  | some table => some (Rows.json table)

end

def Document.json (document : Document) : Json :=
  .object <|
    ("name", .string document.name) ::
      Json.optional "dimension" (document.dimension.map Dimension.json) ++
      [("table", document.table.json)]

end ReportSegments
