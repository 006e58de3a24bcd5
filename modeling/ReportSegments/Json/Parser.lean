import ReportSegments.Json.Dialect

/-!
This module contains the reading of JSON texts: a machine that takes one lexeme after the other and
keeps the open containers on a stack.
-/

namespace ReportSegments
namespace Json

/--
An open container with the part of it that is complete, in reverse.
-/
inductive Frame where
  | list (reversed : List Raw)
  | table (reversed : List (Option String × Raw))
  /-- A table behind the name of its next entry. -/
  | entry (reversed : List (Option String × Raw)) (name : Option String)

/--
What may follow inside the innermost open container.
-/
inductive Expected where
  | value
  | valueOrEnd
  | name
  | nameOrEnd
  | colon
  | commaOrEnd

inductive Progress where
  | expecting (what : Expected) (stack : List Frame)
  | finished (value : Raw)

namespace Progress

def start : Progress :=
  .expecting .value []

def place? (value : Raw) : List Frame → Option Progress
  | [] => some (.finished value)
  | .list reversed :: stack => some (.expecting .commaOrEnd (.list (value :: reversed) :: stack))
  | .entry reversed name :: stack =>
    some (.expecting .commaOrEnd (.table ((name, value) :: reversed) :: stack))
  | .table _ :: _ => none

/--
The value of a container of which `depth` are open.
-/
def readable (d : Dialect) (depth : Nat) (value : Raw) : Raw :=
  match d.maxNesting with
  | some limit => if depth ≤ limit then value else .unreadable
  | none => value

/--
Closes the innermost container with the mark `c`.
-/
def close? (d : Dialect) (c : Char) (stack : List Frame) : Option Progress :=
  match c, stack with
  | ']', .list reversed :: rest => place? (readable d stack.length (.list reversed.reverse)) rest
  | '}', .table reversed :: rest => place? (readable d stack.length (.table reversed.reverse)) rest
  | _, _ => none

def value? (d : Dialect) (stack : List Frame) : Lexeme → Option Progress
  | .mark '[' => some (.expecting .valueOrEnd (.list [] :: stack))
  | .mark '{' => some (.expecting .nameOrEnd (.table [] :: stack))
  | .mark _ => none
  | .word cs => (d.readWord? cs).bind (place? · stack)
  | .quoted cs => (d.readQuoted? cs).bind fun s => place? (s.elim .unreadable .text) stack

def name? (d : Dialect) : List Frame → Lexeme → Option Progress
  | .table reversed :: stack, .word cs =>
    (d.readName? cs).map fun name => .expecting .colon (.entry reversed (some name) :: stack)
  | .table reversed :: stack, .quoted cs =>
    (d.readQuoted? cs).map fun name => .expecting .colon (.entry reversed name :: stack)
  | _, _ => none

def comma? (d : Dialect) : List Frame → Option Progress
  | stack@(.list _ :: _) =>
    some (.expecting (if d.trailingComma then .valueOrEnd else .value) stack)
  | stack@(.table _ :: _) =>
    some (.expecting (if d.trailingComma then .nameOrEnd else .name) stack)
  | _ => none

def step? (d : Dialect) : Progress → Lexeme → Option Progress
  | .finished _, _ => none
  | .expecting .value stack, lexeme => value? d stack lexeme
  | .expecting .valueOrEnd stack, .mark ']' => close? d ']' stack
  | .expecting .valueOrEnd stack, lexeme => value? d stack lexeme
  | .expecting .name stack, lexeme => name? d stack lexeme
  | .expecting .nameOrEnd stack, .mark '}' => close? d '}' stack
  | .expecting .nameOrEnd stack, lexeme => name? d stack lexeme
  | .expecting .colon stack, .mark ':' => some (.expecting .value stack)
  | .expecting .colon _, _ => none
  | .expecting .commaOrEnd stack, .mark ',' => comma? d stack
  | .expecting .commaOrEnd stack, .mark c => close? d c stack
  | .expecting .commaOrEnd _, _ => none

/--
The value of a machine that is through with its text.
-/
def result? : Progress → Option Raw
  | .finished value => some value
  | .expecting _ _ => none

end Progress

namespace Dialect

def parse? (d : Dialect) (lexemes : List Lexeme) : Option Raw :=
  (lexemes.foldlM (Progress.step? d) .start).bind Progress.result?

def read? (d : Dialect) (s : String) : Option Raw :=
  (d.lexemes? s.toList).bind d.parse?

end Dialect
end Json
end ReportSegments
