import ReportSegments.Display.Layout
import ReportSegments.Json.Printer
import ReportSegments.Program.Source
import ReportSegments.Report.Path

/-!
This module contains the answer to the question for the full label of a row.
-/

namespace ReportSegments

/--
A row with its full label and the expression that asks for it.
-/
structure Recomposed where
  row : String
  label : String
  filter : Option String

namespace Recomposed

/--
Puts the label of the row at a written path together.
-/
def ofRow (rules : LayoutRules) (document : Document) (row : String) :
    Except RunError Recomposed := do
  let path ← require (Row.readPath? row) (.rowPath row)
  let tree := Display.Tree.ofTable rules document.table
  let place ← require (tree.resolve? path) (.noRow row)
  match tree.recompose rules.separator place with
  | .error error => .error (.unknownRow error)
  | .ok label =>
    return {
      row
      label
      filter := document.segment?.map fun segment => Clause.buildEscaped segment.key "==" label
    }

def text (recomposed : Recomposed) : String :=
  recomposed.label ++ "\n" ++ (recomposed.filter.map (· ++ "\n")).getD ""

def json (recomposed : Recomposed) : Json :=
  .object [
    ("row", .string recomposed.row),
    ("label", .string recomposed.label),
    ("segment", (recomposed.filter.map .string).getD .null)]

end Recomposed

end ReportSegments
