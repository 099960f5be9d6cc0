/-!
# Positive numbers

Counts of instances, inputs and outputs are positive by their type.
-/

namespace ChannelGraph

/-- A positive number. -/
abbrev Positive :=
  { n : Nat // 0 < n }

namespace Positive

/-- The positive number that an integer is, if it is one. -/
def ofInt? (n : Int) : Option Positive :=
  if h : 0 < n then some ⟨n.toNat, Int.lt_toNat.2 h⟩ else none

end Positive

end ChannelGraph
