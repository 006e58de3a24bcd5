import ReportSegments.Text.Blank

/-!
This module contains the writing of segment expressions: clauses of a key, an operator and a
value, and their combination. `,`, `;` and `&` are reserved; `escape` writes them so that a value
may hold them.
-/

namespace ReportSegments
namespace Clause

/--
One character of a value, with the reserved ones in percent coding.
-/
def escapeChar (c : Char) : List Char :=
  if c = ',' then ['%', '2', 'C']
  else if c = ';' then ['%', '3', 'B']
  else if c = '&' then ['%', '2', '6']
  else [c]

/--
A value whose reserved characters are in percent coding. All else stays, `%` too.
-/
def escape (value : String) : String :=
  String.ofList (value.toList.flatMap escapeChar)

/--
A clause around a value that is written as it is.
-/
def build (key operator value : String) : String :=
  key ++ operator ++ value

def buildEscaped (key operator value : String) : String :=
  build key operator (escape value)

def joinAnd (clauses : List String) : String :=
  String.intercalate ";" (clauses.filter fun clause => !Text.allBlank clause.toList)

end Clause
end ReportSegments
