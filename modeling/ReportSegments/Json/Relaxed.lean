import ReportSegments.Json.Parser
import ReportSegments.Number.Literal
import ReportSegments.Text.Blank
import ReportSegments.Text.CodeUnit
import ReportSegments.Text.Letter

/-!
This module contains the dialect of JSON5: comments, trailing commas, names without quotes, single
quotes, and more ways to write numbers and escapes. Whatever is well formed can be read.
-/

namespace ReportSegments
namespace Json
namespace Relaxed

open Text (CodeUnit)

/--
The number of a decimal literal: an integer if it has neither point nor exponent and fits 64 bits,
else the double next to it.
-/
def decimal (l : Literal) : Raw :=
  match l.integer?.bind Integer.ofInt? with
  | some n => .number (.integer n)
  | none => l.nearest?.elim .nonFinite fun x => .number (.double x)

/--
The number of a row of hexadecimal digits, which must fit 128 bits with its sign.
-/
def hexadecimal? (negative : Bool) (digits : List Char) : Option Raw :=
  if digits = [] then
    none
  else
    (Text.hexNumber? digits).bind fun n =>
      let n : Int := if negative then -(n : Int) else n
      if n < -(1 <<< 127) ∨ 1 <<< 128 ≤ n then
        none
      else
        match Integer.ofInt? n with
        | some n => some (.number (.integer n))
        | none =>
          (Binary64.ofRatio? negative n.natAbs 1).map fun x => .number (.double x)

/--
Reads a number: an optional sign, and then an infinity, not a number, hexadecimal digits or a
decimal literal, of whose two sides of the point one may be empty.
-/
def number? (cs : List Char) : Option Raw :=
  let (sign, digits) := Literal.sign cs
  let negative := sign.getD false
  match digits with
  | ['I', 'n', 'f', 'i', 'n', 'i', 't', 'y'] => some .nonFinite
  | ['N', 'a', 'N'] => some .nonFinite
  | '0' :: 'x' :: rest => hexadecimal? negative rest
  | '0' :: 'X' :: rest => hexadecimal? negative rest
  | digits =>
    ((Literal.readUnsigned? negative digits).filter fun l =>
      Literal.plainWhole l.whole && (l.whole ≠ [] || l.fraction.getD [] ≠ [])).map decimal

def readWord? (cs : List Char) : Option Raw :=
  match cs with
  | ['n', 'u', 'l', 'l'] => some .null
  | ['t', 'r', 'u', 'e'] => some (.bool true)
  | ['f', 'a', 'l', 's', 'e'] => some (.bool false)
  | cs => number? cs

/--
The characters of a name without quotes, out of their escapes.
-/
def nameUnits? : List Char → Option (List CodeUnit)
  | [] => some []
  | '\\' :: 'u' :: a :: b :: c :: d :: rest => do
    return .unit (← Text.hexNumber? [a, b, c, d]) :: (← nameUnits? rest)
  | c :: rest => if c = '\\' then none else (nameUnits? rest).map (.char c :: ·)

def readName? (cs : List Char) : Option String :=
  match (nameUnits? cs).bind CodeUnit.chars? with
  | some (c :: rest) =>
    if Text.startsIdentifier c && rest.all Text.continuesIdentifier then
      some (String.ofList (c :: rest))
    else
      none
  | _ => none

/--
The character behind a backslash, if it is neither `u` nor `x` nor a digit nor the end of a line.
-/
def escape (c : Char) : Char :=
  match c with
  | 'b' => '\x08'
  | 'f' => '\x0c'
  | 'n' => '\n'
  | 'r' => '\r'
  | 't' => '\t'
  | 'v' => '\x0b'
  | c => c

/--
The characters between quotes, out of their escapes. A line goes on behind a backslash at its end.
-/
def units? : List Char → Option (List CodeUnit)
  | [] => some []
  | '\\' :: 'u' :: a :: b :: c :: d :: rest => do
    return .unit (← Text.hexNumber? [a, b, c, d]) :: (← units? rest)
  | '\\' :: 'x' :: a :: b :: rest => do
    return .char (Char.ofNat (← Text.hexNumber? [a, b])) :: (← units? rest)
  | '\\' :: '\r' :: '\n' :: rest => (units? rest).map (.gap :: ·)
  | '\\' :: c :: rest =>
    if Dialect.endsLine c then
      (units? rest).map (.gap :: ·)
    else if c = '0' then
      if rest.head?.any Char.isDigit then none else (units? rest).map (.char '\x00' :: ·)
    else if c.isDigit || c = 'u' || c = 'x' then
      none
    else
      (units? rest).map (.char (escape c) :: ·)
  | c :: rest =>
    if c = '\\' || c = '\n' || c = '\r' then none else (units? rest).map (.char c :: ·)

end Relaxed

/--
JSON5.
-/
def Dialect.relaxed : Dialect where
  isBlank c := c = '\uFEFF' || (Text.isBlank c && c ≠ '\u0085')
  isQuote c := c = '"' || c = '\x27'
  comments := true
  trailingComma := true
  maxNesting := none
  readWord? := Relaxed.readWord?
  readName? := Relaxed.readName?
  readQuoted? cs := ((Relaxed.units? cs).bind Text.CodeUnit.chars?).map (some <| String.ofList ·)

end Json
end ReportSegments
