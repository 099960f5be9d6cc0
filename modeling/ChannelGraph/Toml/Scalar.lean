import ChannelGraph.Decimal.Numeral
import ChannelGraph.Text.Hex
import ChannelGraph.Toml.Basic

/-!
# Bare TOML values

Truth values, numbers, dates and times are written without quotes. Such a value is a run of
letters, digits and the signs `_`, `.`, `+`, `-` and `:` (`Toml.isBare`), and whoever reads
one takes the whole run, since none of these characters may follow a value. A date may be
followed by a space and a time of day.

Integers are decimal, with a sign, or have one of the bases 16, 8 and 2, without. Digits may
have single underscores between them, and decimal numbers have no leading zeros. Dates have to
exist; times have seconds, and fractions of them of any length.

A decimal integer with too many digits is refused as soon as its digits are read, whatever
stands behind them, and the refusal is one of its own (`Toml.Refusal`).
-/

namespace ChannelGraph

namespace Toml

/-- Why a text is no document. -/
inductive Refusal where
  /-- The text does not follow the grammar. -/
  | malformed
  /-- A decimal integer has too many digits. -/
  | longInteger (digits : Nat)
deriving DecidableEq

/-- The characters of values without quotes. -/
def isBare (c : Char) : Bool :=
  c.isAlphanum || c == '_' || c == '.' || c == '+' || c == '-' || c == ':'

/-! ### Numbers -/

/-- The value of a numeral of a base whose digits have single underscores between them, read
after a number; the last character passed was a digit, or was not. -/
def baseValue? (base : Nat) (n : Nat) (afterDigit : Bool) : List Char → Option Nat
  | [] => if afterDigit then some n else none
  | c :: cs =>
    if c = '_' then if afterDigit then baseValue? base n false cs else none
    else
      match Text.hexValue? c with
      | none => none
      | some d => if d < base then baseValue? base (base * n + d) true cs else none

/-- The digits of a decimal numeral, without underscores, if there are any and no zero leads
them. -/
def wholeDigits? (cs : List Char) : Option (List Char × List Char) :=
  match Numeral.digitRun cs with
  | ([], _) => none
  | (d :: ds, rest) => if d = '0' ∧ !ds.isEmpty then none else some (d :: ds, rest)

/-- The digits of a fraction, if a point is ahead. -/
def fractionDigits? : List Char → Option (List Char × List Char)
  | '.' :: cs =>
    match Numeral.digitRun cs with
    | ([], _) => none
    | r => some r
  | cs => some ([], cs)

/-- A decimal number. -/
def decimal? (cs : List Char) : Option Toml :=
  let (negative, unsigned) := Numeral.splitSign cs
  match wholeDigits? unsigned with
  | none => none
  | some (whole, []) => some (integer (Numeral.signed negative whole))
  | some (whole, rest) =>
    match fractionDigits? rest with
    | none => none
    | some (fraction, rest) =>
      (Numeral.exponent? Numeral.digitRun rest).map fun e ↦
        float (.ofDecimal negative (Numeral.value (whole ++ fraction)) (e - fraction.length))

/-- Whether the characters behind the digits of a decimal number go on with a fraction or an
exponent. -/
def goesOn : List Char → Bool
  | '.' :: c :: _ => c.isDigit
  | 'e' :: cs | 'E' :: cs => (Numeral.splitSign cs).2.head?.any Char.isDigit
  | _ => false

/-- The number of digits of the decimal integer at the front, if there are too many. -/
def longInteger? (cs : List Char) : Option Nat :=
  match wholeDigits? (Numeral.splitSign cs).2 with
  | none => none
  | some (whole, rest) =>
    if Numeral.digitLimit < whole.length ∧ !goesOn rest then some whole.length else none

/-- A number. -/
def number? : List Char → Option Toml
  | '0' :: 'x' :: cs => (baseValue? 16 0 false cs).map fun n ↦ integer n
  | '0' :: 'o' :: cs => (baseValue? 8 0 false cs).map fun n ↦ integer n
  | '0' :: 'b' :: cs => (baseValue? 2 0 false cs).map fun n ↦ integer n
  | cs => decimal? cs

/-- A word with a fixed value. -/
def word? : String → Option Toml
  | "true" => some (boolean true)
  | "false" => some (boolean false)
  | "inf" | "+inf" => some (float (.infinity false))
  | "-inf" => some (float (.infinity true))
  | "nan" | "+nan" | "-nan" => some (float .nan)
  | _ => none

/-! ### Dates and times -/

/-- The number of two decimal digits at the front. -/
def twoDigits? : List Char → Option (Nat × List Char)
  | a :: b :: cs => if a.isDigit ∧ b.isDigit then some (Numeral.value [a, b], cs) else none
  | _ => none

/-- Whether a year has a leap day. -/
def isLeap (year : Nat) : Bool :=
  year % 4 == 0 && (year % 100 != 0 || year % 400 == 0)

/-- The number of days in a month. -/
def daysIn (year month : Nat) : Nat :=
  if month = 2 then if isLeap year then 29 else 28
  else if month ∈ [4, 6, 9, 11] then 30
  else 31

/-- Whether a date exists. -/
def isDate (year month day : Nat) : Bool :=
  1 ≤ year && 1 ≤ month && month ≤ 12 && 1 ≤ day && day ≤ daysIn year month

/-- The characters behind a date at the front. -/
def afterDate? (cs : List Char) : Option (List Char) := do
  let (century, cs) ← twoDigits? cs
  let (years, cs) ← twoDigits? cs
  let '-' :: cs := cs | none
  let (month, cs) ← twoDigits? cs
  let '-' :: cs := cs | none
  let (day, cs) ← twoDigits? cs
  if isDate (100 * century + years) month day then some cs else none

/-- The characters behind hours and minutes at the front. -/
def afterMinutes? (cs : List Char) : Option (List Char) := do
  let (hour, cs) ← twoDigits? cs
  let ':' :: cs := cs | none
  let (minute, cs) ← twoDigits? cs
  if hour < 24 ∧ minute < 60 then some cs else none

/-- The characters behind a time of day at the front. -/
def afterTime? (cs : List Char) : Option (List Char) := do
  let ':' :: cs ← afterMinutes? cs | none
  let (second, cs) ← twoDigits? cs
  if second < 60 then
    match cs with
    | '.' :: ds => if (ds.takeWhile Char.isDigit).isEmpty then none else ds.dropWhile Char.isDigit
    | cs => some cs
  else none

/-- Whether the characters are the offset of a time zone, or nothing. -/
def isOffset : List Char → Bool
  | [] => true
  | ['Z'] | ['z'] => true
  | c :: cs => (c == '+' || c == '-') && afterMinutes? cs == some []

/-- Whether the characters are a time of day. -/
def isTime (cs : List Char) : Bool :=
  afterTime? cs == some []

/-- Whether the characters are a time of day with at most an offset behind it. -/
def isTimeOfZone (cs : List Char) : Bool :=
  (afterTime? cs).any isOffset

/-- Whether the characters are a date, with at most a mark and a time of day behind it. -/
def isMoment (cs : List Char) : Bool :=
  match afterDate? cs with
  | some [] => true
  | some ('T' :: cs) | some ('t' :: cs) | some (' ' :: cs) => isTimeOfZone cs
  | _ => false

/-! ### All values without quotes -/

/-- The value that a run of characters is. -/
def bare? (cs : List Char) : Option Toml :=
  match word? (String.ofList cs) with
  | some v => some v
  | none =>
    if isMoment cs || isTime cs then some (moment (String.ofList cs)) else number? cs

/-- The run of characters that a value without quotes takes up: one with a space in it if a
date and a digit are around the space. -/
def bareRun (cs : List Char) : List Char × List Char :=
  let run := cs.takeWhile isBare
  let behind := cs.dropWhile isBare
  match behind with
  | ' ' :: c :: more =>
    if afterDate? run == some [] ∧ c.isDigit then
      (run ++ ' ' :: (c :: more).takeWhile isBare, (c :: more).dropWhile isBare)
    else (run, behind)
  | _ => (run, behind)

/-- The value without quotes at the front. -/
def bareValue (cs : List Char) : Except Refusal (Toml × List Char) :=
  let (run, rest) := bareRun cs
  match longInteger? run with
  | some digits => .error (.longInteger digits)
  | none =>
    match bare? run with
    | some v => .ok (v, rest)
    | none => .error .malformed

end Toml

end ChannelGraph
