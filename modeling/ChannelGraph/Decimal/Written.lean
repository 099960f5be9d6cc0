import ChannelGraph.Decimal.Shortest

/-!
# The text of floating-point numbers

A number is written with its shortest digits, positionally within a range of magnitudes and
with an exponent outside it. Where the range starts and how many digits an exponent has at
least is the choice of the format that writes the number (`FloatFormat`); a positional number
always has a fraction, if only `.0`.
-/

namespace ChannelGraph

/-- The choices of a format that writes floating-point numbers. -/
structure FloatFormat where
  /-- The smallest exponent of ten that is written positionally. -/
  minPositional : Int
  /-- The largest exponent of ten that is written positionally. -/
  maxPositional : Int
  /-- The least number of digits of an exponent. -/
  exponentWidth : Nat
  /-- The text of what is not a number. -/
  nan : String
  /-- The text of the positive infinity. -/
  infinity : String
  /-- The text of the negative infinity. -/
  negativeInfinity : String

namespace Binary64

/-- The digits of a decimal without trailing zeros, and the exponent of ten of the first one. -/
def scientific (d : Decimal) : List Char × Int :=
  let cs := Nat.toDigits 10 d.digits
  let trimmed := (cs.reverse.dropWhile (· = '0')).reverse
  (trimmed, d.exponent + (cs.length : Int) - 1)

/-- The digits of a positive number written positionally; `top` is the exponent of ten of the
first digit. -/
def positional (digits : List Char) (top : Int) : List Char :=
  if top < 0 then '0' :: '.' :: List.replicate (-top - 1).toNat '0' ++ digits
  else
    let whole := top.toNat + 1
    let padded := digits ++ List.replicate (whole - digits.length) '0'
    let fraction := padded.drop whole
    padded.take whole ++ '.' :: (if fraction.isEmpty then ['0'] else fraction)

/-- The digits of a positive number written with an exponent of ten. -/
def withExponent (exponentWidth : Nat) (digits : List Char) (top : Int) : List Char :=
  let mantissa :=
    match digits with
    | [] => ['0']
    | [d] => [d]
    | d :: ds => d :: '.' :: ds
  let power := Nat.toDigits 10 top.natAbs
  let sign := if top < 0 then '-' else '+'
  mantissa ++ 'e' :: sign :: List.replicate (exponentWidth - power.length) '0' ++ power

/-- The text of a number in a format. -/
def written (format : FloatFormat) : Binary64 → String
  | nan => format.nan
  | infinity false => format.infinity
  | infinity true => format.negativeInfinity
  | finite negative m e =>
    let sign := if negative then "-" else ""
    if m = 0 then sign ++ "0.0"
    else
      let (digits, top) := scientific (shortest m e)
      let body :=
        if format.minPositional ≤ top ∧ top ≤ format.maxPositional then positional digits top
        else withExponent format.exponentWidth digits top
      sign ++ String.ofList body

end Binary64

end ChannelGraph
