import ReportSegments.Json.Printer
import ReportSegments.Json.Strict
import ReportSegments.Text.Percent
import ReportSegments.Text.Pieces

/-!
This module contains the parameter of a URL that opens a popover over a report. It is written as
`apiMethod:segment:extra`, where only the expression in the middle may hold further colons.
-/

namespace ReportSegments

/--
What a popover shows: the records that an expression selects, through an API method and with extra
parameters.
-/
structure Popover where
  apiMethod : String
  expression : String
  extra : Json

structure InvalidPopover where
  text : String
deriving DecidableEq, Repr

def InvalidPopover.message (error : InvalidPopover) : String :=
  s!"Invalid popover parameter: '{error.text}'. Expected 'apiMethod:segment:extraParams'"

namespace Popover

def encode (popover : Popover) : String :=
  popover.apiMethod ++ ":" ++ popover.expression ++ ":" ++ Percent.encode popover.extra.compact

def decodeExtra (s : String) : Json :=
  (Json.read? (Percent.decode s)).getD (.object [])

def split? (cs : List Char) : Option (List Char × List Char × List Char) := do
  let (apiMethod, rest) ← Text.cutFirst? [':'] cs
  let (expression, extra) ← Text.cutLast? ':' rest
  if apiMethod.isEmpty || expression.isEmpty then none else return (apiMethod, expression, extra)

/--
Reads a parameter. There must be an API method and an expression.
-/
def decode (s : String) : Except InvalidPopover Popover :=
  match split? s.toList with
  | some (apiMethod, expression, extra) =>
    .ok {
      apiMethod := String.ofList apiMethod
      expression := String.ofList expression
      extra := decodeExtra (String.ofList extra)
    }
  | none => .error ⟨s⟩

end Popover
end ReportSegments
