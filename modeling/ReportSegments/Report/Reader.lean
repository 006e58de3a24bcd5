import ReportSegments.Json.Printer
import ReportSegments.Json.Relaxed
import ReportSegments.Json.Strict
import ReportSegments.Raw.Record
import ReportSegments.Report.Document

/-!
This module contains the reading of report documents. Standard JSON is tried first and then JSON5;
only in standard JSON may a record be written as the list of its fields.
-/

namespace ReportSegments

open Raw (RecordStyle)

/--
The label a value stands for: text as it is, nothing for `null`, and else the compact form.
-/
def Row.labelOf : Json → String
  | .string s => s
  | .null => ""
  | value => value.compact

def Raw.label? (raw : Raw) : Option String :=
  raw.json?.map Row.labelOf

def Raw.fields? (raw : Raw) : Option Fields :=
  (raw.entries? Raw.json?).map Fields.ofList

def Raw.valueTable? (raw : Raw) : Option ValueTable :=
  (raw.entries? Raw.text?).map ValueTable.ofList

def Raw.segment? (style : RecordStyle) (raw : Raw) : Option Segment := do
  let fields ← raw.record? style
    ["key", "name", "label_to_value", "has_custom_resolver", "custom_value_filter",
      "suggested_values_hook"]
  return {
    key := ← Raw.field? fields "key" "" Raw.text?
    name := ← Raw.field? fields "name" none (Raw.nullable? Raw.text?)
    valueOfLabel := ← Raw.field? fields "label_to_value" none (Raw.nullable? Raw.valueTable?)
    hasCustomResolver := ← Raw.field? fields "has_custom_resolver" false Raw.bool?
    customValueFilter := ← Raw.field? fields "custom_value_filter" false Raw.bool?
    suggestedValuesHook := ← Raw.field? fields "suggested_values_hook" false Raw.bool?
  }

def Raw.dimension? (style : RecordStyle) (raw : Raw) : Option Dimension := do
  let fields ← raw.record? style ["name", "segments"]
  return {
    name := ← Raw.field? fields "name" none (Raw.nullable? Raw.text?)
    segments := ← Raw.field? fields "segments" [] (Raw.list? (Raw.segment? style))
  }

def Raw.level? (raw : Raw) : Option UInt32 :=
  (raw.nat? 4294967296).map UInt32.ofNat

mutual

/--
Reads a table that is nested at most `depth` deep.
-/
def Raw.table? (style : RecordStyle) : (depth : Nat) → Raw → Option Table
  | 0, _ => none
  | depth + 1, raw => do
    let fields ← raw.record? style ["rows", "summary_row"]
    return {
      rows := ← Raw.field? fields "rows" [] (Raw.list? (Raw.row? style depth))
      summary := ← Raw.field? fields "summary_row" none (Raw.nullable? (Raw.row? style depth))
    }

/--
Reads a row that is nested at most `depth` deep.
-/
def Raw.row? (style : RecordStyle) : (depth : Nat) → Raw → Option Row
  | 0, _ => none
  | depth + 1, raw => do
    let fields ← raw.record? style ["label", "columns", "metadata", "subtable", "level"]
    return {
      label := ← Raw.field? fields "label" "" Raw.label?
      columns := ← Raw.field? fields "columns" .empty Raw.fields?
      metadata := ← Raw.field? fields "metadata" .empty Raw.fields?
      subtable := ← Raw.field? fields "subtable" none (Raw.nullable? (Raw.table? style depth))
      level := ← Raw.field? fields "level" none (Raw.nullable? Raw.level?)
    }

end

def Raw.document? (style : RecordStyle) (raw : Raw) : Option Document := do
  let fields ← raw.record? style ["name", "dimension", "table"]
  return {
    name := ← Raw.field? fields "name" "" Raw.text?
    dimension := ← Raw.field? fields "dimension" none (Raw.nullable? (Raw.dimension? style))
    table := ← Raw.field? fields "table" {} (Raw.table? style raw.depth)
  }

/--
Records in standard JSON: also as the list of their fields.
-/
def Json.strictRecords : RecordStyle := ⟨true, false⟩

/--
Records in JSON5: only as tables.
-/
def Json.relaxedRecords : RecordStyle := ⟨false, false⟩

def Document.parse? (s : String) : Option Document :=
  (((Json.Dialect.strict Json.nestingLimit).read? s).bind (Raw.document? Json.strictRecords)) <|>
    (Json.Dialect.relaxed.read? s).bind (Raw.document? Json.relaxedRecords)

end ReportSegments
