import ReportSegments.Expression.Operator
import ReportSegments.Text.Blank
import ReportSegments.Text.Percent
import ReportSegments.Text.Pieces

/-!
This module contains the reading of segment expressions: groups of conditions, where the groups
are combined with AND (`;`) and the conditions of a group with OR (`,`).
-/

namespace ReportSegments

/--
A comparison of the segment `key` with a value, out of percent coding.
-/
structure Condition where
  key : String
  operator : Operator
  value : String
deriving DecidableEq, Repr

/--
Why a text is no segment expression.
-/
inductive ExpressionError where
  | empty
  | invalidCondition (text : String)
deriving DecidableEq, Repr

namespace ExpressionError

def message : ExpressionError → String
  | empty => "Empty segment expression"
  | invalidCondition text => s!"Invalid segment condition: '{text}'"

end ExpressionError

namespace Condition

/--
The characters of a segment's key: ASCII letters and digits, `_`, `.` and `-`.
-/
def isKeyChar (c : Char) : Bool :=
  c.isAlphanum || c = '_' || c = '.' || c = '-'

/--
Reads a condition without blanks around it: a key, an operator, and a value on one line.
-/
def read? (cs : List Char) : Option Condition :=
  let key := cs.takeWhile isKeyChar
  match key, Operator.read? (cs.dropWhile isKeyChar) with
  | [], _ => none
  | _, none => none
  | _, some (operator, value) =>
    if value.contains '\n' then
      none
    else
      some ⟨String.ofList key, operator, Percent.decode (String.ofList value)⟩

def parse (cs : List Char) : Except ExpressionError Condition :=
  match read? (Text.trim cs) with
  | some condition => .ok condition
  | none => .error (.invalidCondition (String.ofList (Text.trim cs)))

end Condition

/--
The conditions of an expression: every group must hold, each by one of its conditions.
-/
abbrev Expression := List (List Condition)

namespace Expression

/--
Reads an expression. Blank groups are dropped, blank conditions are not.
-/
def parse (s : String) : Except ExpressionError Expression :=
  match Text.trim s.toList with
  | [] => .error .empty
  | cs =>
    ((Text.pieces [';'] cs).filter fun group => !Text.allBlank group).mapM fun group =>
      (Text.pieces [','] group).mapM Condition.parse

end Expression
end ReportSegments
