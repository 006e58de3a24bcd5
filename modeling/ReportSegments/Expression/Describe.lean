import ReportSegments.Segment.Registry
import ReportSegments.Text.Percent
import ReportSegments.Text.Pieces

/-!
This module contains the description of a single clause in words.
-/

namespace ReportSegments
namespace Clause

/--
The key and the value around the first occurrence of an operator.
-/
def split? (clause operator : String) : Option (String × String) :=
  if operator.isEmpty then
    none
  else
    (Text.cutFirst? operator.toList clause.toList).map fun (key, value) =>
      (String.ofList key, String.ofList value)

/--
A clause in words, such as `Device type is "smartphone"` for `deviceType==smartphone`.
-/
def describe? (clause operator : String) (registry : Registry) : Option String :=
  (split? clause operator).map fun (key, value) =>
    registry.resolve key ++ " is \"" ++ Percent.decode value ++ "\""

end Clause
end ReportSegments
