import ReportSegments.Segment.ValueTable

/-!
This module contains the segments of a report's dimension.
-/

namespace ReportSegments

/--
How a dimension maps onto a segment: its `key` in expressions, the `name` shown for it, the stored
values behind displayed labels, and what is known of how its values are resolved.
-/
structure Segment where
  key : String
  name : Option String := none
  valueOfLabel : Option ValueTable := none
  hasCustomResolver : Bool := false
  customValueFilter : Bool := false
  suggestedValuesHook : Bool := false

/--
The name to show for a segment, or else its key.
-/
def Segment.displayName (segment : Segment) : String :=
  segment.name.getD segment.key

/--
The dimension a report is built on.
-/
structure Dimension where
  name : Option String := none
  segments : List Segment := []

/--
The segment that filters a report: the first one of its dimension.
-/
def Dimension.first? (dimension : Option Dimension) : Option Segment :=
  dimension.bind fun dimension => dimension.segments.head?

end ReportSegments
