import ReportSegments.Number.Binary64

/-!
This module contains the shortest decimal that reads back as a given double. Among the decimals
with the fewest digits inside the double's rounding interval it is the one next to the double,
in a tie the one with an even last digit.
-/

namespace ReportSegments

/--
The number `digits * 10 ^ exponent`.
-/
structure Decimal where
  digits : Nat
  exponent : Int
deriving DecidableEq, Repr

namespace Decimal

/--
The same number without zeros at the end of its digits.
-/
def normalize (d : Decimal) : Decimal :=
  go (Nat.toDigits 10 d.digits).length d.digits d.exponent
where
  go : Nat → Nat → Int → Decimal
    | 0, digits, exponent => ⟨digits, exponent⟩
    | fuel + 1, digits, exponent =>
      if digits % 10 = 0 then go fuel (digits / 10) (exponent + 1) else ⟨digits, exponent⟩

end Decimal

namespace Binary64

/--
A double's magnitude and the ends of its rounding interval, over one denominator.
-/
structure Interval where
  low : Nat
  value : Nat
  high : Nat
  den : Nat
  closed : Bool

/--
The decimals that read back as a double lie between the middles to its two neighbours. Below a
power of two the lower neighbour is half as far away. The ends belong to the interval of a double
with an even last bit.
-/
def interval (x : Binary64) : Interval :=
  let (m, q) := x.significand
  let below := if m = 1 <<< 52 ∧ -1074 < q then 1 else 2
  let (unit, den) := scale 1 1 (q - 2)
  ⟨(4 * m - below) * unit, 4 * m * unit, (4 * m + 2) * unit, den, m % 2 = 0⟩

namespace Interval

/--
Whether `n` steps of the grid `step / stepDen` lie in the interval.
-/
def holds (i : Interval) (step stepDen n : Nat) : Bool :=
  let point := n * step * i.den
  if i.closed then
    i.low * stepDen ≤ point && point ≤ i.high * stepDen
  else
    i.low * stepDen < point && point < i.high * stepDen

/--
The multiple of `10 ^ k` in the interval that is next to its value, as a number of steps.
-/
def onGrid? (i : Interval) (k : Int) : Option Nat :=
  let step := Nat.pow 10 k.toNat
  let stepDen := Nat.pow 10 (-k).toNat
  let floor := i.value * stepDen / (i.den * step)
  match i.holds step stepDen floor, i.holds step stepDen (floor + 1) with
  | true, true => some (divideToEven (i.value * stepDen) (i.den * step))
  | true, false => some floor
  | false, true => some (floor + 1)
  | false, false => none

/--
The exponent of the first decimal digit of the value: `10 ^ e ≤ value < 10 ^ (e + 1)`.
-/
def leading (i : Interval) : Int :=
  if i.den ≤ i.value then
    (Nat.toDigits 10 (i.value / i.den)).length - 1
  else
    go 330 1
where
  go : Nat → Nat → Int
    | 0, places => -places
    | fuel + 1, places => if i.den ≤ i.value * Nat.pow 10 places then -places else go fuel (places + 1)

end Interval

def shortest (x : Binary64) : Decimal :=
  if x.isZero then
    ⟨0, 0⟩
  else
    let i := x.interval
    go i 17 i.leading
where
  /-- Tries the grid of `10 ^ k` and then the finer ones. -/
  go (i : Interval) : Nat → Int → Decimal
    | 0, k => ⟨(i.onGrid? k).getD 0, k⟩
    | fuel + 1, k =>
      match i.onGrid? k with
      | some n => if n = 0 then go i fuel (k - 1) else (⟨n, k⟩ : Decimal).normalize
      | none => go i fuel (k - 1)

/--
A double in decimal notation. Positional notation has at least one decimal place and is used while
the exponent of the first digit is at least -5 and at most 15; beyond, a decimal point stands behind
the first digit if there are more, and the exponent has a sign.
-/
def text (x : Binary64) : List Char :=
  let d := x.shortest
  let digits := Nat.toDigits 10 d.digits
  let leading := d.exponent + digits.length - 1
  let sign := if x.negative then ['-'] else []
  sign ++
    if x.isZero then
      ['0', '.', '0']
    else if 0 ≤ d.exponent ∧ leading ≤ 15 then
      digits ++ List.replicate d.exponent.toNat '0' ++ ['.', '0']
    else if 0 ≤ leading ∧ leading ≤ 15 then
      digits.take (leading + 1).toNat ++ ['.'] ++ digits.drop (leading + 1).toNat
    else if -5 ≤ leading ∧ leading < 0 then
      ['0', '.'] ++ List.replicate (-leading - 1).toNat '0' ++ digits
    else
      let point := if digits.length = 1 then [] else ['.']
      let sign := if leading < 0 then '-' else '+'
      digits.take 1 ++ point ++ digits.drop 1 ++ ['e', sign] ++ Nat.toDigits 10 leading.natAbs

end Binary64
end ReportSegments
