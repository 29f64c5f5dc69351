/-!
# Sets of code points

A set of code points written as ranges, both ends included.
-/

namespace FieldAtlas.Text

/-- `n` lies in one of the ranges. -/
def inRanges (ranges : List (Nat × Nat)) (n : Nat) : Bool :=
  ranges.any fun r => r.1 ≤ n && n ≤ r.2

end FieldAtlas.Text
