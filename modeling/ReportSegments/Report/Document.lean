import ReportSegments.Report.Table
import ReportSegments.Segment.Dimension

/-!
This module contains report documents: a report with its dimension and its table.
-/

namespace ReportSegments

/--
A rendered report. Its name is the API method that it answers.
-/
structure Document where
  name : String := ""
  dimension : Option Dimension := none
  table : Table := {}

def Document.segment? (document : Document) : Option Segment :=
  Dimension.first? document.dimension

end ReportSegments
