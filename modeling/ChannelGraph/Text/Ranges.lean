/-!
# Classes of characters as ranges

A property of characters is given by the ranges of code points that have it.
-/

namespace ChannelGraph.Text

/-- Whether a code point lies in one of several ranges. -/
def inRanges (ranges : List (Nat × Nat)) (n : Nat) : Bool :=
  ranges.any fun r ↦ r.1 ≤ n && n ≤ r.2

end ChannelGraph.Text
