import ChannelGraph.Decimal.Binary64

/-!
# Shortest decimals

The shortest decimal of a positive finite number is the one with the fewest digits among those
that round to the number; of several the nearest, and of two equally near the even one.

The reals that round to the number form an interval, which contains its ends exactly if the
significand is even. For each count of digits from one to seventeen the two neighbours of the
number on that decimal grid are tested in exact arithmetic: if a point of a grid lies in the
interval, so does one of these two.
-/

namespace ChannelGraph

namespace Binary64

/-- A decimal `digits * 10 ^ exponent`. -/
structure Decimal where
  /-- The digits, read as a natural number. -/
  digits : Nat
  /-- The power of ten of the last digit. -/
  exponent : Int
deriving DecidableEq

/-- The exponent of ten in the value of a positive quotient: the largest `k` with
`10 ^ k ≤ num / den`. -/
def log10Ratio (num den : Nat) : Int :=
  if den ≤ num then (digitCount (num / den) : Int) - 1
  else
    let d := digitCount (den / num)
    if den ≤ num * Nat.pow 10 (d - 1) then 1 - (d : Int) else -(d : Int)

/-- The interval of reals that round to `significand * 2 ^ exponent`, in units of a quarter of
the last place: the lower end, the number itself and the upper end. -/
def interval (significand : Nat) (exponent : Int) : Nat × Nat × Nat :=
  let below := if significand = topBit ∧ minExponent < exponent then 1 else 2
  (4 * significand - below, 4 * significand, 4 * significand + 2)

/-- The point of the decimal grid with the given place that lies in the interval of a number
and is nearest to it, if the interval has one. -/
def nearestOnGrid (significand : Nat) (exponent place : Int) : Option Decimal :=
  let (low, mid, high) := interval significand exponent
  -- one grid step is `step`, one quarter of the last place is `unit`, in a common measure
  let step := Nat.pow 10 place.toNat * Nat.pow 2 (2 - exponent).toNat
  let unit := Nat.pow 2 (exponent - 2).toNat * Nat.pow 10 (-place).toNat
  let inside (c : Nat) : Bool :=
    if significand % 2 = 0 then low * unit ≤ c * step ∧ c * step ≤ high * unit
    else low * unit < c * step ∧ c * step < high * unit
  let c := mid * unit / step
  let below := mid * unit - c * step
  let above := (c + 1) * step - mid * unit
  let pick : Option Nat :=
    match inside c, inside (c + 1) with
    | true, true => if below < above ∨ (below = above ∧ c % 2 = 0) then some c else some (c + 1)
    | true, false => some c
    | false, true => some (c + 1)
    | false, false => none
  pick.map fun d ↦ ⟨d, place⟩

/-- The shortest decimal that rounds to a positive number `significand * 2 ^ exponent`. -/
def shortest (significand : Nat) (exponent : Int) : Decimal :=
  let top : Int :=
    if 0 ≤ exponent then log10Ratio (significand * Nat.pow 2 exponent.toNat) 1
    else log10Ratio significand (Nat.pow 2 (-exponent).toNat)
  let grids := (List.range 17).map fun n : Nat ↦ top - n
  (grids.findSome? (nearestOnGrid significand exponent)).getD ⟨significand, exponent⟩

end Binary64

end ChannelGraph
