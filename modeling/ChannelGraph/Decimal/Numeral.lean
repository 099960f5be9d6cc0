/-!
# Decimal numerals

The digits, sign and exponent of numerals in texts. Where a format lets underscores group
digits, a run of digits may have single ones between them (`Numeral.digitRun`), and the run is
taken without them.
-/

namespace ChannelGraph.Numeral

/-- The largest number of digits that the numeral of an integer may have, its sign aside. -/
def digitLimit : Nat :=
  4300

/-- The number that a list of decimal digits denotes. -/
def value (cs : List Char) : Nat :=
  cs.foldl (fun n c ↦ 10 * n + (c.toNat - 0x30)) 0

/-- The sign of a numeral, whether it is negative, with the characters behind it. -/
def splitSign : List Char → Bool × List Char
  | '-' :: cs => (true, cs)
  | '+' :: cs => (false, cs)
  | cs => (false, cs)

/-- The number with a sign and digits. -/
def signed (negative : Bool) (digits : List Char) : Int :=
  let n : Int := value digits
  if negative then -n else n

/-- A run of digits with single underscores between them, and what follows it. The digits are
returned without underscores. -/
def digitRun : List Char → List Char × List Char
  | [] => ([], [])
  | [c] => if c.isDigit then ([c], []) else ([], [c])
  | c :: d :: cs =>
    if c.isDigit then
      if d = '_' then
        match cs with
        | e :: _ =>
          if e.isDigit then
            let r := digitRun cs
            (c :: r.1, r.2)
          else ([c], d :: cs)
        | [] => ([c], [d])
      else
        let r := digitRun (d :: cs)
        (c :: r.1, r.2)
    else ([], c :: d :: cs)

/-- A run of digits, and what follows it. -/
def plainRun (cs : List Char) : List Char × List Char :=
  (cs.takeWhile Char.isDigit, cs.dropWhile Char.isDigit)

/-- The exponent that the characters are: zero if there are none, else a mark, an optional sign
and digits, which are read by the given function. -/
def exponent? (run : List Char → List Char × List Char) : List Char → Option Int
  | [] => some 0
  | 'e' :: cs | 'E' :: cs =>
    let (negative, ds) := splitSign cs
    match run ds with
    | ([], _) => none
    | (digits, []) => some (signed negative digits)
    | _ => none
  | _ => none

end ChannelGraph.Numeral
