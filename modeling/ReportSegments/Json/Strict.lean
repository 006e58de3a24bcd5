import ReportSegments.Json.Parser
import ReportSegments.Number.Literal
import ReportSegments.Text.CodeUnit

/-!
This module contains the dialect of standard JSON. Numbers that are too large and surrogates
without their partners are well formed but cannot be read.
-/

namespace ReportSegments
namespace Json
namespace Strict

open Text (CodeUnit)

/--
Reads a decimal literal: the whole part has no needless zeros, and digits stand on both sides of a
point.
-/
def literal? (cs : List Char) : Option Literal :=
  let (negative, digits) :=
    match cs with
    | '-' :: cs => (true, cs)
    | cs => (false, cs)
  (Literal.readUnsigned? negative digits).filter fun l =>
    l.whole ≠ [] && Literal.plainWhole l.whole && l.fraction ≠ some []

/--
The number of a literal: an integer if it is written as one, fits 64 bits and is not `-0`.
-/
def number? (l : Literal) : Option Number :=
  match l.integer?.bind Integer.ofInt? with
  | some n =>
    if l.negative && n.val = 0 then some (.double ⟨true, 0⟩) else some (.integer n)
  | none => l.stepwise?.map .double

def readWord? (cs : List Char) : Option Raw :=
  match cs with
  | ['n', 'u', 'l', 'l'] => some .null
  | ['t', 'r', 'u', 'e'] => some (.bool true)
  | ['f', 'a', 'l', 's', 'e'] => some (.bool false)
  | cs => (literal? cs).map fun l => (number? l).elim .unreadable .number

/--
The character behind a backslash, other than `u`.
-/
def escape? : Char → Option Char
  | '"' => some '"'
  | '\\' => some '\\'
  | '/' => some '/'
  | 'b' => some '\x08'
  | 'f' => some '\x0c'
  | 'n' => some '\n'
  | 'r' => some '\r'
  | 't' => some '\t'
  | _ => none

/--
The characters between quotes, out of their escapes. Control characters must be escaped.
-/
def units? : List Char → Option (List CodeUnit)
  | [] => some []
  | '\\' :: 'u' :: a :: b :: c :: d :: rest => do
    return .unit (← Text.hexNumber? [a, b, c, d]) :: (← units? rest)
  | '\\' :: c :: rest => do return .char (← escape? c) :: (← units? rest)
  | c :: rest => if c = '\\' || c.toNat < 0x20 then none else (units? rest).map (.char c :: ·)

end Strict

/--
Standard JSON, where at most `maxNesting` containers may be open for a value to be read.
-/
def Dialect.strict (maxNesting : Option Nat) : Dialect where
  isBlank c := c = ' ' || c = '\t' || c = '\n' || c = '\r'
  isQuote c := c = '"'
  comments := false
  trailingComma := false
  maxNesting := maxNesting
  readWord? := Strict.readWord?
  readName? _ := none
  readQuoted? cs := (Strict.units? cs).map fun units => (Text.CodeUnit.chars? units).map String.ofList

/--
How many containers of a standard JSON text may be open.
-/
def nestingLimit : Nat := 127

def read? (s : String) : Option Json :=
  ((Dialect.strict nestingLimit).read? s).bind Raw.json?

end Json
end ReportSegments
