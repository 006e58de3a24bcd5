/-!
This module contains finite double precision numbers and their arithmetic as far as reading and
writing decimals needs it. All of it is exact arithmetic of natural numbers with one rounding,
to the nearest double and in a tie to the even one.
-/

namespace ReportSegments

/--
A finite double: its sign and the 63 bits below the sign, read as a number. That number grows with
the magnitude, so the next larger magnitude has the next number.
-/
structure Binary64 where
  negative : Bool
  magnitude : Nat
deriving DecidableEq, Repr

namespace Binary64

def infinity : Nat := 2047 <<< 52

def zero : Binary64 := ⟨false, 0⟩

def isZero (x : Binary64) : Bool :=
  x.magnitude = 0

/--
The number `(m, q)` with the magnitude `m * 2 ^ q` of a double, where `m` has its full precision.
-/
def significand (x : Binary64) : Nat × Int :=
  let exponent : Nat := x.magnitude >>> 52
  let fraction : Nat := x.magnitude % (1 <<< 52)
  if exponent = 0 then (fraction, -1074) else ((1 <<< 52) + fraction, (exponent : Int) - 1075)

/--
The quotient of two numbers rounded to an integer, in a tie to the even one.
-/
def divideToEven (num den : Nat) : Nat :=
  let quotient := num / den
  let twice := 2 * (num % den)
  if twice < den then quotient
  else if den < twice then quotient + 1
  else quotient + quotient % 2

/--
The fraction `num / den * 2 ^ q` as numerator and denominator.
-/
def scale (num den : Nat) (q : Int) : Nat × Nat :=
  (num <<< q.toNat, den <<< (-q).toNat)

/--
The magnitude next to `num / den`; at least `infinity` if no finite one is.
-/
def nearest (num den : Nat) : Nat :=
  if num = 0 then
    0
  else
    let guess : Int := (Nat.log2 num : Int) - Nat.log2 den - 53
    let (n, d) := scale num den (-guess)
    let fit := if n / d < 1 <<< 53 then guess else guess + 1
    let q := max fit (-1074)
    let (n, d) := scale num den (-q)
    ((q + 1074).toNat <<< 52) + divideToEven n d

/--
The double next to `num / den`, unless that is too large.
-/
def ofRatio? (negative : Bool) (num den : Nat) : Option Binary64 :=
  let magnitude := nearest num den
  if magnitude < infinity then some ⟨negative, magnitude⟩ else none

def mul? (x y : Binary64) : Option Binary64 :=
  let (m, p) := x.significand
  let (n, q) := y.significand
  let (num, den) := scale (m * n) 1 (p + q)
  ofRatio? false num den

def div? (x y : Binary64) : Option Binary64 :=
  let (m, p) := x.significand
  let (n, q) := y.significand
  let (num, den) := scale m n (p - q)
  ofRatio? false num den

end Binary64
end ReportSegments
