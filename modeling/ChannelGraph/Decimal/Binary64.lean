/-!
# Binary floating-point numbers of 64 bits

A finite number is a sign, a significand below `2 ^ 53` and an exponent of two, in the one
form in which the significand is at least `2 ^ 52` or the exponent is the smallest. All
arithmetic is on natural numbers: `ofRatio` rounds a quotient to the nearest number, a tie to
the even significand, and decimal numerals and integers are quotients.
-/

namespace ChannelGraph

/-- A binary floating-point number. -/
inductive Binary64 where
  /-- Not a number. -/
  | nan
  /-- An infinity, with its sign. -/
  | infinity (negative : Bool)
  /-- The number `± significand * 2 ^ exponent`. -/
  | finite (negative : Bool) (significand : Nat) (exponent : Int)
deriving DecidableEq

namespace Binary64

/-- The smallest exponent of two that a finite number has. -/
def minExponent : Int :=
  -1074

/-- The largest exponent of two that a finite number has. -/
def maxExponent : Int :=
  971

/-- The smallest significand of a number that is not among the smallest, `2 ^ 52`. -/
def topBit : Nat :=
  Nat.pow 2 52

/-- Zero, with its sign. -/
def zero (negative : Bool) : Binary64 :=
  finite negative 0 minExponent

instance : Inhabited Binary64 :=
  ⟨zero false⟩

/-- The quotient rounded to the nearest integer, a tie to the even one. -/
def roundDiv (num den : Nat) : Nat :=
  let q := num / den
  let twice := 2 * (num % den)
  if twice < den then q
  else if den < twice then q + 1
  else q + q % 2

/-- The exponent of two in the value of a positive quotient: the largest `k` with
`2 ^ k ≤ num / den`. -/
def log2Ratio (num den : Nat) : Int :=
  let k : Int := (Nat.log2 num : Int) - (Nat.log2 den : Int)
  let fits :=
    if 0 ≤ k then den * Nat.pow 2 k.toNat ≤ num
    else den ≤ num * Nat.pow 2 (-k).toNat
  if fits then k else k - 1

/-- The number nearest to a quotient, with the given sign; a quotient too large gives an
infinity. -/
def ofRatio (negative : Bool) (num den : Nat) : Binary64 :=
  if num = 0 then zero negative
  else
    let e := max (log2Ratio num den - 52) minExponent
    let m :=
      if 0 ≤ e then roundDiv num (den * Nat.pow 2 e.toNat)
      else roundDiv (num * Nat.pow 2 (-e).toNat) den
    let (m, e) := if m = 2 * topBit then (topBit, e + 1) else (m, e)
    if maxExponent < e then infinity negative else finite negative m e

/-- The number of decimal digits of a natural number. -/
def digitCount (n : Nat) : Nat :=
  (Nat.toDigits 10 n).length

/-- The number nearest to `± digits * 10 ^ exponent`. Numerals far outside the range are
decided by their order of magnitude alone. -/
def ofDecimal (negative : Bool) (digits : Nat) (exponent : Int) : Binary64 :=
  let magnitude : Int := exponent + digitCount digits
  if digits = 0 ∨ magnitude < -400 then zero negative
  else if 400 < magnitude then infinity negative
  else if 0 ≤ exponent then ofRatio negative (digits * Nat.pow 10 exponent.toNat) 1
  else ofRatio negative digits (Nat.pow 10 (-exponent).toNat)

/-- The number nearest to an integer. -/
def ofInt (n : Int) : Binary64 :=
  ofRatio (n < 0) n.natAbs 1

/-- The integer that a number is, if it is one. -/
def toInt? : Binary64 → Option Int
  | finite negative m e =>
    let whole : Option Nat :=
      if 0 ≤ e then some (m * Nat.pow 2 e.toNat)
      else if m % Nat.pow 2 (-e).toNat = 0 then some (m / Nat.pow 2 (-e).toNat) else none
    whole.map fun n ↦ if negative then -(n : Int) else n
  | _ => none

/-- Whether a number is less than an integer; nothing undefined is. -/
def isBelow (n : Int) : Binary64 → Bool
  | nan => false
  | infinity negative => negative
  | finite negative m e =>
    let signed : Int := if negative then -m else m
    if 0 ≤ e then decide (signed * Nat.pow 2 e.toNat < n)
    else decide (signed < n * Nat.pow 2 (-e).toNat)

/-- Whether a number is neither infinite nor undefined. -/
def isFinite : Binary64 → Bool
  | finite .. => true
  | _ => false

end Binary64

end ChannelGraph
