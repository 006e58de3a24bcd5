/-!
This module contains the comparison operators of segment expressions and their reading at the
front of a text.
-/

namespace ReportSegments

/--
How a condition compares a segment with its value.
-/
inductive Operator where
  | equals
  | differs
  | atMost
  | atLeast
  | contains
  | excludes
  | startsWith
  | endsWith
  | less
  | greater
deriving DecidableEq, Repr

namespace Operator

def text : Operator → String
  | equals => "=="
  | differs => "!="
  | atMost => "<="
  | atLeast => ">="
  | contains => "=@"
  | excludes => "!@"
  | startsWith => "=^"
  | endsWith => "=$"
  | less => "<"
  | greater => ">"

def all : List Operator :=
  [equals, differs, atMost, atLeast, contains, excludes, startsWith, endsWith, less, greater]

/--
The longest operator at the front of a text, with the text behind it.
-/
def read? (cs : List Char) : Option (Operator × List Char) :=
  all.findSome? fun op => (op.text.toList.isPrefixOf? cs).map (op, ·)

end Operator
end ReportSegments
