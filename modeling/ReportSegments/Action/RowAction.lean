import ReportSegments.Expression.Clause
import ReportSegments.Expression.Describe
import ReportSegments.Expression.Operator

/-!
This module contains the action of a report's rows that shows the visits behind a row: those whose
value of the report's segment contains the label of the row.
-/

namespace ReportSegments

/--
The action of a report's rows. It needs a segment to filter by.
-/
structure RowAction where
  segment : Option String
deriving DecidableEq, Repr

namespace RowAction

def ofDimension (dimension : Option Dimension) : RowAction where
  segment := (Dimension.first? dimension).map Segment.key

def isAvailable (action : RowAction) : Bool :=
  action.segment.isSome

def comparison : Operator := .contains

/--
A label without the `@` in front that marks a raw value.
-/
def rawLabel (label : String) : String :=
  match label.toList with
  | '@' :: cs => String.ofList cs
  | _ => label

/--
The expression that selects the visits behind the row with the given label.
-/
def expression? (action : RowAction) (label : String) : Option String :=
  action.segment.map fun segment => Clause.buildEscaped segment comparison.text (rawLabel label)

/--
The title of the list of visits that an expression selects.
-/
def title? (base expression : String) (registry : Registry) : Option String :=
  (Clause.describe? expression comparison.text registry).map fun description =>
    base ++ " showing visits where " ++ description

end RowAction
end ReportSegments
