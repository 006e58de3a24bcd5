import ReportSegments.Number.Shortest

/-!
This module contains the numbers of a document: integers of 64 bits, signed or unsigned, and
doubles.
-/

namespace ReportSegments

/--
An integer that fits a signed or an unsigned word of 64 bits: it is at least `-2 ^ 63` and less than
`2 ^ 64`.
-/
structure Integer where
  val : Int
  min_le : -9223372036854775808 ≤ val
  lt_max : val < 18446744073709551616
deriving DecidableEq, Repr

namespace Integer

def ofInt? (n : Int) : Option Integer :=
  if h : -9223372036854775808 ≤ n ∧ n < 18446744073709551616 then some ⟨n, h.1, h.2⟩ else none

def ofNat (n : Nat) : Integer where
  val := if n < 18446744073709551616 then n else 18446744073709551615
  min_le := by split <;> omega
  lt_max := by split <;> omega

def text (n : Integer) : List Char :=
  match n.val with
  | .ofNat n => Nat.toDigits 10 n
  | .negSucc n => '-' :: Nat.toDigits 10 (n + 1)

end Integer

inductive Number where
  | integer (n : Integer)
  | double (x : Binary64)
deriving DecidableEq, Repr

namespace Number

def text : Number → List Char
  | integer n => n.text
  | double x => x.text

end Number
end ReportSegments
