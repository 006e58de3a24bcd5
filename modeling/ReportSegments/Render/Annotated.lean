import ReportSegments.Pass.Pipeline
import ReportSegments.Render.Grid
import ReportSegments.Render.Style
import ReportSegments.Report.Path
import ReportSegments.Report.Writer

/-!
This module contains annotated reports and their two written forms. The JSON form is a report
document that also says what the passes did.
-/

namespace ReportSegments

/--
A report after a run of passes.
-/
structure Annotated where
  name : String
  table : Table
  passes : List PassReport

namespace PassReport

def line (coloured : Bool) (report : PassReport) : String :=
  let result :=
    match report.error with
    | some error => Style.yellow.apply coloured error.message
    | none => report.annotated.repr ++ " rows"
  "  " ++ String.ofList (report.pass.toList.rightpad 20 ' ') ++ " " ++ result ++ "\n"

def json (report : PassReport) : Json :=
  .object [
    ("pass", .string report.pass),
    ("annotated", .ofNat report.annotated),
    ("error", (report.error.map fun error => Json.string error.message).getD .null)]

end PassReport

namespace Annotated

def ofRun (pipeline : Pipeline) (document : Document) : Annotated :=
  let (table, passes) := pipeline.run document.table
  { name := document.name, table, passes }

def grid (annotated : Annotated) : Grid where
  header := ["Row", "Label", Row.filterKey, Row.presentationKey]
  rows := annotated.table.flatten.map fun (path, row) => [
    RowId.pathText path,
    row.label,
    row.segmentFilter?.getD "-",
    (row.metadata.string? Row.presentationKey).getD "-"]

def text (coloured : Bool) (annotated : Annotated) : String :=
  let title := if annotated.name.isEmpty then "Report" else annotated.name
  Style.bold.apply coloured title ++ "\n" ++ annotated.grid.text ++ "\n\n" ++
    Style.bold.apply coloured "Passes" ++ "\n" ++
    String.join (annotated.passes.map (PassReport.line coloured))

def json (annotated : Annotated) : Json :=
  .object [
    ("name", .string annotated.name),
    ("table", annotated.table.json),
    ("passes", .array (annotated.passes.map PassReport.json))]

end Annotated
end ReportSegments
