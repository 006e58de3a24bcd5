import ReportSegments.Expression.Condition
import ReportSegments.Json.Printer
import ReportSegments.Render.Grid
import ReportSegments.Segment.Registry

/-!
This module contains the two written forms of a segment expression's conditions.
-/

namespace ReportSegments

def Condition.json (registry : Registry) (condition : Condition) : Json :=
  .object [
    ("segment", .string condition.key),
    ("name", .string (registry.resolve condition.key)),
    ("operator", .string condition.operator.text),
    ("value", .string condition.value)]

namespace Expression

/--
The conditions with the numbers of their groups, which start at 1.
-/
def grid (registry : Registry) (expression : Expression) : Grid where
  header := ["Group", "Segment", "Operator", "Value"]
  rows := (expression.zipIdx 1).flatMap fun (group, i) =>
    group.map fun condition => [
      i.repr,
      registry.resolve condition.key,
      condition.operator.text,
      condition.value]

def text (registry : Registry) (expression : Expression) : String :=
  (expression.grid registry).text ++ "\n"

def json (registry : Registry) (expression : Expression) : Json :=
  .object [("and", .array (expression.map fun group =>
    .array (group.map (Condition.json registry))))]

end Expression
end ReportSegments
