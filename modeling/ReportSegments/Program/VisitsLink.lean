import ReportSegments.Action.Popover
import ReportSegments.Action.RowAction
import ReportSegments.Program.Source

/-!
This module contains the row action of a report, worked out for a label.
-/

namespace ReportSegments

/--
The row action for a label: the expression, the popover parameter and the title of the list.
-/
structure VisitsLink where
  filter : String
  popover : String
  title : Option String

namespace VisitsLink

/--
Works out the row action of a report. There must be a segment to filter by.
-/
def ofLabel (config : Config) (document : Document) (label : String)
    (apiMethod : Option String) : Except RunError VisitsLink := do
  let action := RowAction.ofDimension document.dimension
  let filter ← require (action.expression? label) .noSegment
  return {
    filter
    popover :=
      Popover.encode {
        apiMethod := apiMethod.getD document.name
        expression := filter
        extra := .object []
      }
    title := RowAction.title? "Visits log" filter (config.registryFor document.dimension)
  }

def text (link : VisitsLink) : String :=
  "segment: " ++ link.filter ++ "\npopover: " ++ link.popover ++ "\n" ++
    (link.title.map fun title => "title:   " ++ title ++ "\n").getD ""

def json (link : VisitsLink) : Json :=
  .object [
    ("segment", .string link.filter),
    ("popover", .string link.popover),
    ("title", (link.title.map .string).getD .null)]

end VisitsLink

end ReportSegments
