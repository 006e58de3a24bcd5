/-!
This module contains sets of characters that are given by ranges of code points.
-/

namespace ReportSegments
namespace Text

/--
Whether a character lies in one of the ranges, ends included.
-/
def inRanges (ranges : List (Nat × Nat)) (c : Char) : Bool :=
  ranges.any fun range => range.1 ≤ c.toNat && c.toNat ≤ range.2

end Text
end ReportSegments
