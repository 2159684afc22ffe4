/-!
# Ranges of code points

Classes of characters are given by tables of ranges.
-/

namespace NearMiss.Text

/-- Whether a code point lies in one of some ranges, whose two ends are included. -/
def inRanges (ranges : Array (Nat × Nat)) (n : Nat) : Bool :=
  ranges.any fun (low, high) => low ≤ n && n ≤ high

end NearMiss.Text
