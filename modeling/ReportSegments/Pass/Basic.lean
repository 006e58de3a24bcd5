import ReportSegments.Expression.Clause
import ReportSegments.Report.Walk
import ReportSegments.Segment.Dimension
import ReportSegments.Text.Pieces

/-!
This module contains the passes that annotate the rows of a report. A filter pass derives the
expression that selects the records behind a row, from the row alone, and writes it unless the row
has one. A presentation pass writes the raw value behind a row, always.
-/

namespace ReportSegments

/--
Where the raw value behind a row is taken from.
-/
inductive LabelSource where
  /-- The label as it is shown. -/
  | shown
  /-- The label before formatting, where the row has kept it. -/
  | unformatted
deriving DecidableEq, Repr

inductive Pass where
  /-- The label is the value of the segment, or its parts between delimiters are the values of the
  segments. -/
  | byLabel (segments : List String) (delimiter : String) (escaped : Bool)
  /-- The value of the segment is looked up by the label. -/
  | byMapping (segment : String) (values : ValueTable) (escaped : Bool)
  /-- The value of the segment came with the row. -/
  | bySegmentValue (segment : Option String)
  | presentation (source : Option LabelSource)

inductive ConfigurationError where
  | missingSegments
  | missingDelimiter (segments : List String)
deriving DecidableEq, Repr

namespace ConfigurationError

def message : ConfigurationError → String
  | missingSegments => "Segment filter is called without having any segments defined"
  | missingDelimiter segments =>
    "Multiple segments are given but no delimiter defined. Segments: " ++
      String.intercalate ", " segments

end ConfigurationError

namespace Pass

def name : Pass → String
  | byLabel .. => "segment"
  | byMapping .. => "label_mapping"
  | bySegmentValue .. => "segment_value"
  | presentation .. => "presentation_value"

def single (segment : String) (escaped : Bool) : Pass :=
  .byLabel [segment] "" escaped

/--
The pass that takes the values a segment lists for its labels, if it does.
-/
def ofValues? (segment : Segment) (escaped : Bool) : Option Pass :=
  segment.valueOfLabel.map fun values => .byMapping segment.key values escaped

/--
The pass for the values that came with the rows. It does nothing if there is no segment, if that
has no key, or if its values need a resolver.
-/
def segmentValue (segment : Option Segment) : Pass :=
  .bySegmentValue <|
    (segment.filter fun segment => !segment.hasCustomResolver && !segment.key.isEmpty).map
      Segment.key

/--
The pass for raw values. It does nothing if there is no segment or if values come from a resolver.
-/
def presentationValue (segment : Option Segment) : Pass :=
  .presentation <|
    (segment.filter fun segment => !segment.suggestedValuesHook && !segment.hasCustomResolver).map
      fun segment => if segment.customValueFilter then .shown else .unformatted

def fault? : Pass → Option ConfigurationError
  | byLabel [] _ _ => some .missingSegments
  | byLabel [segment] _ _ => if segment.isEmpty then some .missingSegments else none
  | byLabel segments delimiter _ =>
    if delimiter.isEmpty then some (.missingDelimiter segments) else none
  | _ => none

def clause (escaped : Bool) (segment value : String) : String :=
  if escaped then Clause.buildEscaped segment "==" value else Clause.build segment "==" value

/--
The expression for the parts of a label: a clause for each segment with a key, where there are as
many parts as segments.
-/
def delimited? (segments : List String) (delimiter : String) (escaped : Bool)
    (label : String) : Option String :=
  let parts := Text.splitOn delimiter label
  if parts.length = segments.length then
    let used := (segments.zip parts).filter fun (segment, _) => !segment.isEmpty
    let filter := Clause.joinAnd (used.map fun (segment, part) => clause escaped segment part)
    if filter.isEmpty then none else some filter
  else
    none

/--
The value that came with a row, as text. `null` and `false` stand for no value.
-/
def valueText? : Json → Option String
  | .string s => some s
  | .number n => some (String.ofList n.text)
  | .bool true => some "1"
  | _ => none

def derive? (pass : Pass) (id : RowId) (row : Row) : Option String :=
  match pass with
  | byLabel segments delimiter escaped =>
    if id.isSummary || row.label.isEmpty then
      none
    else
      match segments with
      | [segment] => some (clause escaped segment row.label)
      | segments => delimited? segments delimiter escaped row.label
  | byMapping segment values escaped =>
    if segment.isEmpty then
      none
    else
      ((values.find? row.label).filter (!·.isEmpty)).map (clause escaped segment)
  | bySegmentValue segment =>
    if id.isSummary then
      none
    else
      segment.bind fun segment =>
        ((row.metadata.get? Row.valueKey).bind valueText?).map
          (Clause.buildEscaped segment "==")
  | presentation _ => none

def LabelSource.value (source : LabelSource) (row : Row) : String :=
  match source with
  | .shown => row.label
  | .unformatted => (row.metadata.string? Row.unformattedLabelKey).getD row.label

/--
The metadata of a row that receives a value from a pass.
-/
def edit? (pass : Pass) (id : RowId) (row : Row) : Option Fields :=
  match pass with
  | presentation source =>
    source.map fun source =>
      row.metadata.set Row.presentationKey (.string (LabelSource.value source row))
  | pass =>
    (pass.derive? id row).bind fun filter =>
      row.metadata.setIfAbsent? Row.filterKey (.string filter)

/--
Applies a pass to a table: how many rows received a value, or why the pass cannot be applied, and
the table afterwards.
-/
def apply (pass : Pass) (table : Table) : Except ConfigurationError Nat × Table :=
  match pass.fault? with
  | some error => (.error error, table)
  | none =>
    let (table, annotated) := table.annotate pass.edit? 0
    (.ok annotated, table)

end Pass
end ReportSegments
