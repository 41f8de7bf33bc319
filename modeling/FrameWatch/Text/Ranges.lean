/-!
# Ranges of characters

A class of characters as a table of ranges of code points.
-/

namespace FrameWatch.Text

/-- Whether one of the ranges holds `n`. -/
def inRanges (ranges : Array (Nat × Nat)) (n : Nat) : Bool :=
  ranges.any fun r => r.1 ≤ n && n ≤ r.2

end FrameWatch.Text
