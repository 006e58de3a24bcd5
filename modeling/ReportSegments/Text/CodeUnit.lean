import ReportSegments.Text.Hex

/-!
This module contains texts in which some characters are written as UTF-16 code units.
-/

namespace ReportSegments
namespace Text

/--
A character that stands for itself, a code unit that was written as a number, or a gap: a place
without a character, which no surrogate pair may span.
-/
inductive CodeUnit where
  | char (c : Char)
  | unit (n : Nat)
  | gap
deriving DecidableEq, Repr

namespace CodeUnit

def isHigh (n : Nat) : Bool :=
  0xD800 ≤ n && n < 0xDC00

def isLow (n : Nat) : Bool :=
  0xDC00 ≤ n && n < 0xE000

/--
The characters of a text, if every surrogate is part of a pair.
-/
def chars? : List CodeUnit → Option (List Char)
  | [] => some []
  | .char c :: rest => (chars? rest).map (c :: ·)
  | .gap :: rest => chars? rest
  | .unit high :: .unit low :: rest =>
    if isHigh high && isLow low then
      (chars? rest).map (Char.ofNat (0x10000 + (high - 0xD800) * 0x400 + (low - 0xDC00)) :: ·)
    else if isHigh high || isLow high then
      none
    else
      (chars? (.unit low :: rest)).map (Char.ofNat high :: ·)
  | .unit n :: rest =>
    if isHigh n || isLow n then none else (chars? rest).map (Char.ofNat n :: ·)

end CodeUnit
end Text
end ReportSegments
