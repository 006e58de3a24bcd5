import ReportSegments.Pass.Pipeline
import ReportSegments.Report.Document
import ReportSegments.Segment.Registry

/-!
This module contains the configuration: how tables are laid out, the display names of segments, and
the passes that run over a report.
-/

namespace ReportSegments

/--
How a table is laid out and how its labels are put together.
-/
structure LayoutRules where
  /-- Stands between the label of a row and that of a row below it. -/
  separator : String := ""
  /-- Longer labels are shown truncated. -/
  maxLabelLength : Option Nat := none
  truncationMarker : String := "..."
  /-- The label of the row that is shown for an empty sub-table. -/
  noDataLabel : String := "No data"
deriving DecidableEq, Repr

/--
A configured pass. What is left open is taken from the segment of the report.
-/
inductive PassConfig where
  | segment (segments : List String) (delimiter : String)
  | labelMapping (segment : Option String) (mapping : Option ValueTable)
  | segmentValue
  | presentationValue

structure Config where
  profileName : String := "base"
  /-- Whether reserved characters of labels are escaped in filters. -/
  escapeLabels : Bool := false
  layout : LayoutRules := {}
  segments : Registry := {}
  pipeline : List PassConfig := [.segmentValue, .presentationValue]

namespace PassConfig

/--
The pass that is configured, for a report with the given segment. A mapping that is nowhere given
is no pass.
-/
def pass? (escapeLabels : Bool) (segment : Option Segment) : PassConfig → Option Pass
  | .segment [only] _ => some (.single only escapeLabels)
  | .segment segments delimiter => some (.byLabel segments delimiter escapeLabels)
  | .labelMapping key mapping => do
    let key ← key <|> segment.map Segment.key
    let mapping ← mapping <|> segment.bind Segment.valueOfLabel
    return .byMapping key mapping escapeLabels
  | .segmentValue => some (.segmentValue segment)
  | .presentationValue => some (.presentationValue segment)

end PassConfig

namespace Config

def passes (config : Config) (segment : Option Segment) : Pipeline :=
  config.pipeline.filterMap (PassConfig.pass? config.escapeLabels segment)

/--
The configured display names, and those of the dimension for all other segments.
-/
def registryFor (config : Config) (dimension : Option Dimension) : Registry :=
  match dimension with
  | some dimension => config.segments.extendMissing (.ofSegments dimension.segments)
  | none => config.segments

end Config
end ReportSegments
