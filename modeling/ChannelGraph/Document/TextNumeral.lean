import ChannelGraph.Decimal.Binary64
import ChannelGraph.Decimal.Numeral
import ChannelGraph.Document.Fault
import ChannelGraph.Text.Blank

/-!
# Numerals in texts

Where a document may write a number as a text, the text is read more freely than a number of
the document itself. White space around the numeral does not matter, a plus sign is allowed,
and underscores may group the characters: none of them at an end, no two next to each other
(`TextNumeral.ungroup?`).

An integer is read as documents write it or, if that fails, freely: it may then have zeros in
front and a fraction of zeros behind. Zeros in front are skipped together with any underscores
among them, and the numeral goes on with a digit or, once zeros were skipped, with a minus sign.
What is left has to be an integer as documents write it.

A floating-point number is read as it is or, if that fails, without its underscores; in the
second case white space around it is not skipped.
-/

namespace ChannelGraph.TextNumeral

open ChannelGraph

/-! ### Underscores -/

/-- Whether two underscores stand next to each other. -/
def hasDoubleMark : List Char → Bool
  | '_' :: '_' :: _ => true
  | _ :: cs => hasDoubleMark cs
  | [] => false

/-- The characters without the underscores that group them, if all underscores do. -/
def ungroup? (cs : List Char) : Option (List Char) :=
  if cs.head? = some '_' ∨ cs.getLast? = some '_' ∨ hasDoubleMark cs then none
  else some (cs.filter (· ≠ '_'))

/-! ### Integers -/

/-- What follows the zeros in front of a numeral, given the character passed just now. A point
takes that character with it, and so does the end. -/
def afterZeros? (last : Char) : List Char → Option (List Char)
  | [] => some [last]
  | c :: cs =>
    if c = '0' ∨ c = '_' then afterZeros? c cs
    else if c.isDigit ∨ c = '-' then some (c :: cs)
    else if c = '.' then some (last :: c :: cs)
    else none

/-- A numeral without the zeros in front of it. -/
def dropZeros? : List Char → Option (List Char)
  | [] => none
  | c :: cs =>
    if c = '0' then afterZeros? c cs
    else if c.isDigit ∨ c = '-' then some (c :: cs)
    else none

/-- A numeral without a fraction that consists of zeros. -/
def dropZeroFraction (cs : List Char) : List Char :=
  match cs.dropWhile (· ≠ '.') with
  | '.' :: c :: ds => if (c :: ds).all (· == '0') then cs.takeWhile (· ≠ '.') else cs
  | _ => cs

/-- The integer that the characters are as documents write it: digits without a zero in front of
others, behind at most a minus sign. Too many digits are refused whatever follows them. -/
def strictInteger (cs : List Char) : Except FaultKind Int :=
  let (negative, unsigned) : Bool × List Char :=
    match cs with
    | '-' :: ds => (true, ds)
    | ds => (false, ds)
  match unsigned.takeWhile Char.isDigit with
  | [] => .error .unreadableInteger
  | d :: ds =>
    if d = '0' ∧ !ds.isEmpty then .error .unreadableInteger
    else if Numeral.digitLimit < ds.length + 1 then .error .hugeInteger
    else if (unsigned.dropWhile Char.isDigit).isEmpty then
      .ok (Numeral.signed negative (d :: ds))
    else .error .unreadableInteger

/-- The integer of a freely written numeral behind its sign, which is given. -/
def unsignedInteger? (negative : Bool) (cs : List Char) : Option Int :=
  (dropZeros? cs).bind fun ds ↦
    let plain := dropZeroFraction ds
    let digits := (ungroup? plain).getD plain
    (strictInteger (if negative then '-' :: digits else digits)).toOption

/-- The integer of a freely written numeral. -/
def freeInteger? : List Char → Option Int
  | '+' :: '-' :: _ => none
  | '+' :: cs => unsignedInteger? false cs
  | '-' :: cs => unsignedInteger? true cs
  | cs => unsignedInteger? false cs

/-- The integer that a text denotes. Only a text that has too many digits as it is written is told
to be huge. -/
def integer (s : String) : Except FaultKind Int :=
  let cs := Text.trim Text.isWhite s.toList
  match strictInteger cs with
  | .error .unreadableInteger =>
    match freeInteger? cs with
    | some n => .ok n
    | none => .error .unreadableInteger
  | result => result

/-! ### Floating-point numbers -/

/-- The unsigned decimal numeral that the characters are, as digits and a power of ten. -/
def decimal? (cs : List Char) : Option (Nat × Int) :=
  let whole := cs.takeWhile Char.isDigit
  let behind := cs.dropWhile Char.isDigit
  let (fraction, rest) :=
    match behind with
    | '.' :: ds => (ds.takeWhile Char.isDigit, ds.dropWhile Char.isDigit)
    | _ => ([], behind)
  if whole.isEmpty && fraction.isEmpty then none
  else
    (Numeral.exponent? Numeral.plainRun rest).map fun e ↦
      (Numeral.value (whole ++ fraction), e - fraction.length)

/-- The floating-point number that the characters are: a sign, and a word or a decimal
numeral. -/
def plainFloat? (cs : List Char) : Option Binary64 :=
  let (negative, unsigned) := Numeral.splitSign cs
  let word := String.ofList (unsigned.map Char.toLower)
  if word = "inf" ∨ word = "infinity" then some (.infinity negative)
  else if word = "nan" then some .nan
  else (decimal? unsigned).map fun d ↦ .ofDecimal negative d.1 d.2

/-- The floating-point number that a text denotes. -/
def float? (s : String) : Option Binary64 :=
  match plainFloat? (Text.trim Text.isWhite s.toList) with
  | some x => some x
  | none => (ungroup? s.toList).bind plainFloat?

end ChannelGraph.TextNumeral
