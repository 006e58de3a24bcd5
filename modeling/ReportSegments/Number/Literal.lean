import ReportSegments.Number.Basic
import ReportSegments.Text.Hex

/-!
This module contains number literals: their parts and the numbers they stand for. There are two
ways to the double of a literal with a fraction, an exponent or too many digits: `exact` rounds
the literal once, `stepwise` rounds its digits and then scales them.
-/

namespace ReportSegments

/--
The digits of a decimal literal. `fraction` and `exponent` are missing where the literal has no
point and no exponent mark; an exponent has its sign.
-/
structure Literal where
  negative : Bool
  whole : List Char
  fraction : Option (List Char)
  exponent : Option (Bool × List Char)
deriving DecidableEq, Repr

namespace Literal

def sign : List Char → Option Bool × List Char
  | '-' :: cs => (some true, cs)
  | '+' :: cs => (some false, cs)
  | cs => (none, cs)

def readExponent? : List Char → Option (Option (Bool × List Char))
  | [] => some none
  | c :: cs =>
    let (negative, digits) := sign cs
    if (c = 'e' ∨ c = 'E') ∧ digits ≠ [] ∧ digits.all Char.isDigit then
      some (some (negative.getD false, digits))
    else
      none

/--
Reads a decimal literal that fills the whole text, without its sign. It is left open which parts
may be empty.
-/
def readUnsigned? (negative : Bool) (cs : List Char) : Option Literal :=
  let whole := cs.takeWhile Char.isDigit
  match cs.dropWhile Char.isDigit with
  | '.' :: rest =>
    (readExponent? (rest.dropWhile Char.isDigit)).map fun exponent =>
      ⟨negative, whole, some (rest.takeWhile Char.isDigit), exponent⟩
  | rest => (readExponent? rest).map fun exponent => ⟨negative, whole, none, exponent⟩

/--
Whether the whole part is written without needless zeros in front.
-/
def plainWhole : List Char → Bool
  | '0' :: _ :: _ => false
  | _ => true

def value (digits : List Char) : Nat :=
  Nat.ofDigitChars 10 digits 0

/--
The value of a row of decimal digits that may be very long: at most `bound`.
-/
def cappedValue (bound : Nat) (digits : List Char) : Nat :=
  digits.foldl (fun n c => min bound (10 * n + (c.toNat - 48))) 0

/--
The exponent as a number. One that is longer than any literal has digits is cut down.
-/
def exponentValue (l : Literal) : Int :=
  match l.exponent with
  | none => 0
  | some (negative, digits) =>
    let n : Int := cappedValue 1000000000000 digits
    if negative then -n else n

def integer? (l : Literal) : Option Int :=
  match l.fraction, l.exponent with
  | none, none =>
    let n : Int := value l.whole
    some (if l.negative then -n else n)
  | _, _ => none

/--
The double next to the number a literal stands for, if there is a finite one. The place of its
first digit that is not zero tells whether it is far too large or far too small.
-/
def nearest? (l : Literal) : Option Binary64 :=
  let fraction := l.fraction.getD []
  let digits := (l.whole ++ fraction).dropWhile (· = '0')
  let n := value digits
  let shift := l.exponentValue - fraction.length
  if digits = [] then
    some ⟨l.negative, 0⟩
  else if 400 < digits.length + shift then
    none
  else if digits.length + shift < -400 then
    some ⟨l.negative, 0⟩
  else
    Binary64.ofRatio? l.negative (n * Nat.pow 10 shift.toNat) (Nat.pow 10 (-shift).toNat)

/--
Takes digits as long as their value fits 64 bits: that value and the digits behind.
-/
def absorb : Nat → List Char → Nat × List Char
  | n, [] => (n, [])
  | n, c :: cs =>
    let next := 10 * n + (c.toNat - 48)
    if next < 18446744073709551616 then absorb next cs else (n, c :: cs)

def powerOfTen? (exponent : Nat) : Option Binary64 :=
  Binary64.ofRatio? false (Nat.pow 10 exponent) 1

/--
`x * 10 ^ exponent` for an `x` below `2 ^ 64`. The power of ten is itself a double; below `-308`
a factor of `10 ^ -308` is split off first, and after two of them nothing is left of `x`.
-/
def shiftStepwise (x : Binary64) (exponent : Int) : Option Binary64 :=
  if 308 < exponent then
    if x.isZero then some x else none
  else if 0 ≤ exponent then
    (powerOfTen? exponent.toNat).bind x.mul?
  else
    go 2 x (-exponent).toNat
where
  go : Nat → Binary64 → Nat → Option Binary64
    | 0, x, places => if places ≤ 308 then (powerOfTen? places).bind x.div? else some .zero
    | splits + 1, x, places =>
      if places ≤ 308 then
        (powerOfTen? places).bind x.div?
      else
        ((powerOfTen? 308).bind x.div?).bind fun y => go splits y (places - 308)

/--
The double of a literal in steps: the leading digits that fit 64 bits are rounded to a double,
which is then scaled. An exponent beyond 31 bits leaves only zero.
-/
def stepwise? (l : Literal) : Option Binary64 :=
  let (n, dropped) := absorb 0 l.whole
  let fraction := l.fraction.getD []
  let (n, rest) := absorb n fraction
  let shift : Int := (dropped.length : Int) + rest.length - fraction.length
  let magnitude :=
    match l.exponent with
    | some (negative, digits) =>
      if 2147483648 ≤ cappedValue 2147483648 digits then
        if n ≠ 0 ∧ !negative then none else some Binary64.zero
      else
        let exponent : Int := value digits
        let shift := if negative then shift - exponent else shift + exponent
        (Binary64.ofRatio? false n 1).bind (shiftStepwise · shift)
    | none => (Binary64.ofRatio? false n 1).bind (shiftStepwise · shift)
  magnitude.map fun x => ⟨l.negative, x.magnitude⟩

end Literal
end ReportSegments
