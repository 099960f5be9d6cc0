import ChannelGraph.Decimal.Binary64
import ChannelGraph.Decimal.Numeral
import ChannelGraph.Text.CharacterName.Basic

/-!
# Tokens of literals

A literal is a number, a text or a constant word, or is put together from such by brackets,
commas, colons and signs. What a number or a text denotes does not matter here, only whether it
is well formed and of which sort it is.

Numbers may be decimal, with a fraction, an exponent and a mark for imaginary ones, or
hexadecimal, octal or binary integers; single underscores may group their digits. Texts stand in
single or double quotation marks, one or three at either end, behind letters that say whether
they consist of bytes and whether backslashes are plain characters. Blanks between tokens are
skipped, and so are comments and the line ends between brackets.
-/

namespace ChannelGraph.Console.Literal

/-- The sorts of numbers. -/
inductive NumberSort where
  /-- A real number. -/
  | real
  /-- An integer that is too large to be a floating-point number. -/
  | huge
  /-- An imaginary number. -/
  | imaginary
deriving DecidableEq

/-- The sort of an integer. -/
def NumberSort.ofInteger (n : Nat) : NumberSort :=
  if (Binary64.ofInt n).isFinite then real else huge

/-- A token of a literal. -/
inductive Token where
  /-- A number. -/
  | number (sort : NumberSort)
  /-- A text, of characters or of bytes. -/
  | text (bytes : Bool)
  /-- A word. -/
  | word (cs : List Char)
  /-- Three points. -/
  | ellipsis
  /-- A plus or minus sign. -/
  | sign
  /-- A bracket, a comma or a colon. -/
  | mark (c : Char)
  /-- A line end outside all brackets. -/
  | lineEnd
deriving DecidableEq

/-! ### Numbers -/

/-- The characters of a number at the front of a text, and what follows them. In a decimal number
a sign belongs to it behind the mark of an exponent, which may be the character passed just
now. -/
def numberRun (decimal afterMark : Bool) : List Char → List Char × List Char
  | [] => ([], [])
  | c :: cs =>
    if c.isAlphanum || c == '.' || c == '_' || (afterMark && (c == '+' || c == '-')) then
      let r := numberRun decimal (decimal && (c == 'e' || c == 'E')) cs
      (c :: r.1, r.2)
    else ([], c :: cs)

/-- Whether characters are digits with single underscores in front of some of them. -/
def isGrouped (isDigit : Char → Bool) : List Char → Bool
  | [] => false
  | '_' :: c :: cs => isDigit c && (cs.isEmpty || isGrouped isDigit cs)
  | c :: cs => isDigit c && (cs.isEmpty || isGrouped isDigit cs)

/-- Whether characters are decimal digits with single underscores between them. -/
def isDigitPart (cs : List Char) : Bool :=
  let r := Numeral.digitRun cs
  !r.1.isEmpty && r.2.isEmpty

/-- Whether a mantissa is well formed, which is split in front of its point. -/
def isMantissa (whole : List Char) : List Char → Bool
  | [] => isDigitPart whole
  | _ :: fraction =>
    (whole.isEmpty || isDigitPart whole) && (fraction.isEmpty || isDigitPart fraction) &&
      !(whole.isEmpty && fraction.isEmpty)

/-- Whether digits are those of an integer: without a zero in front, unless all are zeros, and
not too many. -/
def isInteger (cs : List Char) : Bool :=
  let digits := cs.filter (· ≠ '_')
  digits.all (· == '0') ||
    (digits.head? ≠ some '0' && digits.length ≤ Numeral.digitLimit)

/-- The sort of the decimal number that characters are, if they are well formed. -/
def decimal? (cs : List Char) : Option NumberSort :=
  let imaginary := cs.getLast? = some 'j' || cs.getLast? = some 'J'
  let real := if imaginary then cs.dropLast else cs
  let isMantissaChar (c : Char) : Bool := c ≠ 'e' && c ≠ 'E'
  let mantissa := real.takeWhile isMantissaChar
  let exponent := real.dropWhile isMantissaChar
  let whole := mantissa.takeWhile (· ≠ '.')
  let fraction := mantissa.dropWhile (· ≠ '.')
  if !isMantissa whole fraction || (Numeral.exponent? Numeral.digitRun exponent).isNone then none
  else if imaginary then some .imaginary
  else if !exponent.isEmpty || !fraction.isEmpty then some .real
  else if isInteger whole then some (.ofInteger (Numeral.value (whole.filter (· ≠ '_'))))
  else none

/-- The base of a number by the letter behind a zero in front. -/
def base? : Char → Option Nat
  | 'x' | 'X' => some 16
  | 'o' | 'O' => some 8
  | 'b' | 'B' => some 2
  | _ => none

/-- The number that digits denote in a base. -/
def basedValue (base : Nat) (cs : List Char) : Nat :=
  cs.foldl (fun n c ↦ base * n + (Text.hexValue? c).getD 0) 0

/-- The number at the front of a text, its sort, and what follows it. -/
def number? (cs : List Char) : Option (NumberSort × List Char) :=
  let given : Option Nat :=
    match cs with
    | '0' :: c :: _ => base? c
    | _ => none
  match given with
  | some base =>
    let r := numberRun false false cs
    let digits := r.1.drop 2
    let isDigit (c : Char) : Bool := (Text.hexValue? c).any (· < base)
    if isGrouped isDigit digits then
      some (.ofInteger (basedValue base (digits.filter (· ≠ '_'))), r.2)
    else none
  | none =>
    let r := numberRun true false cs
    (decimal? r.1).map fun sort ↦ (sort, r.2)

/-! ### Texts -/

/-- How a text is written. -/
structure TextForm where
  /-- It consists of bytes. -/
  bytes : Bool
  /-- Backslashes are plain characters. -/
  raw : Bool
deriving DecidableEq

namespace TextForm

/-- The forms by the letters in front of the quotation mark, in lower case. -/
def table : List (String × TextForm) :=
  [("", ⟨false, false⟩), ("u", ⟨false, false⟩), ("r", ⟨false, true⟩), ("b", ⟨true, false⟩),
    ("br", ⟨true, true⟩), ("rb", ⟨true, true⟩)]

/-- The form that letters in front of a quotation mark say. -/
def ofLetters? (cs : List Char) : Option TextForm :=
  table.lookup (String.ofList (cs.map Char.toLower))

end TextForm

/-- The largest code point. -/
def maxCodePoint : Nat :=
  0x10FFFF

/-- Whether the given number of hexadecimal digits is at the front, and denotes a code point. -/
def startsWithHex (digits : Nat) (cs : List Char) : Bool :=
  let ds := cs.take digits
  ds.length == digits &&
    match Text.ofHexDigits? 0 ds with
    | some n => n ≤ maxCodePoint
    | none => false

/-- Whether the name of a character between braces is at the front. -/
def startsWithName : List Char → Bool
  | '\x7b' :: cs =>
    cs.contains '\x7d' && Text.CharacterName.isName (cs.takeWhile (· ≠ '\x7d'))
  | _ => false

/-- Whether a backslash may stand in front of a character that others follow. -/
def isEscape (form : TextForm) (c : Char) (cs : List Char) : Bool :=
  form.raw ||
    match c with
    | 'x' => startsWithHex 2 cs
    | 'u' => form.bytes || startsWithHex 4 cs
    | 'U' => form.bytes || startsWithHex 8 cs
    | 'N' => form.bytes || startsWithName cs
    | _ => true

/-- Whether a character may stand in a text. -/
def isTextChar (form : TextForm) (c : Char) : Bool :=
  !form.bytes || c.toNat < 0x80

/-- What follows the text that goes on with the given characters up to its closing quotation mark,
which may have to be there three times. -/
def afterText? (form : TextForm) (quote : Char) (triple : Bool) : List Char → Option (List Char)
  | [] => none
  | c :: cs =>
    if c = quote then
      if !triple then some cs
      else if cs.take 2 = [quote, quote] then some (cs.drop 2)
      else afterText? form quote triple cs
    else if c = '\\' then
      match cs with
      | [] => none
      | d :: cs =>
        if isEscape form d cs && isTextChar form d then afterText? form quote triple cs
        else none
    else if (c = '\n' ∧ !triple) ∨ !isTextChar form c then none
    else afterText? form quote triple cs

/-- What follows a text whose form is given; the first character is its opening quotation mark. -/
def text? (form : TextForm) : List Char → Option (List Char)
  | [] => none
  | quote :: cs =>
    if cs.take 2 = [quote, quote] then afterText? form quote true (cs.drop 2)
    else afterText? form quote false cs

/-! ### Tokens -/

/-- Line ends of all kinds as line feeds. -/
def unifyLineEnds : List Char → List Char
  | '\r' :: '\n' :: cs => '\n' :: unifyLineEnds cs
  | '\r' :: cs => '\n' :: unifyLineEnds cs
  | c :: cs => c :: unifyLineEnds cs
  | [] => []

/-- The largest number of brackets that may be open at once. -/
def nestingLimit : Nat :=
  200

/-- The other shapes of the letters in the name of the function that makes sets, the only name that
may occur in a literal. -/
def letterShapes : List (Char × List Nat) :=
  [('s', [0x17F, 0x2E2, 0x209B, 0xFF53, 0x1D42C, 0x1D460, 0x1D494, 0x1D4C8, 0x1D4FC, 0x1D530,
      0x1D564, 0x1D598, 0x1D5CC, 0x1D600, 0x1D634, 0x1D668, 0x1D69C]),
    ('e', [0x1D49, 0x2091, 0x212F, 0x2147, 0xFF45, 0x1D41E, 0x1D452, 0x1D486, 0x1D4EE, 0x1D522,
      0x1D556, 0x1D58A, 0x1D5BE, 0x1D5F2, 0x1D626, 0x1D65A, 0x1D68E]),
    ('t', [0x1D57, 0x209C, 0xFF54, 0x1D42D, 0x1D461, 0x1D495, 0x1D4C9, 0x1D4FD, 0x1D531, 0x1D565,
      0x1D599, 0x1D5CD, 0x1D601, 0x1D635, 0x1D669, 0x1D69D])]

/-- A letter in its plain shape, which means the same in a name. -/
def plainLetter (c : Char) : Char :=
  ((letterShapes.find? fun s ↦ s.2.contains c.toNat).map Prod.fst).getD c

/-- Whether a character is a quotation mark. -/
def isQuote (c : Char) : Bool :=
  c == '"' || c == '\''

/-- The token that starts with the given characters and what follows it, if it is neither blank
nor a line end. -/
def token? : List Char → Option (Token × List Char)
  | [] => none
  | c :: cs =>
    if c.isDigit || (c == '.' && (cs.head?.map Char.isDigit).getD false) then
      (number? (c :: cs)).map fun n ↦ (.number n.1, n.2)
    else if (plainLetter c).isAlpha || c == '_' || isQuote c then
      let isLetter (c : Char) : Bool := (plainLetter c).isAlphanum || c == '_'
      let letters := (c :: cs).takeWhile isLetter
      let behind := (c :: cs).dropWhile isLetter
      if (behind.head?.map isQuote).getD false then
        (TextForm.ofLetters? letters).bind fun form ↦
          (text? form behind).map fun rest ↦ (.text form.bytes, rest)
      else some (.word letters, behind)
    else if c == '+' || c == '-' then some (.sign, cs)
    else if c ∈ ['(', ')', '\x7b', '\x7d', ',', ':'] then some (.mark c, cs)
    else if c == '.' && cs.take 2 == ['.', '.'] then some (.ellipsis, cs.drop 2)
    else none

/-- The number of open brackets behind a token. -/
def depthBehind (depth : Nat) : Token → Nat
  | .mark c =>
    if c = '(' ∨ c = '\x7b' then depth + 1 else if c = ')' ∨ c = '\x7d' then depth - 1 else depth
  | _ => depth

/-- Whether a character is blank between tokens. -/
def isGap (c : Char) : Bool :=
  c == ' ' || c == '\t' || c == '\x0c'

/-- Whether a line with tokens starts with blanks, given whether blanks have been passed and
whether some were in front of a line end behind a backslash. A form feed sets the start of the line
back, but not what was in front of such a line end. -/
def isIndentedFrom (blank kept : Bool) : List Char → Bool
  | [] => false
  | c :: cs =>
    if c = ' ' ∨ c = '\t' then isIndentedFrom true kept cs
    else if c = '\x0c' then isIndentedFrom false kept cs
    else if c = '\\' then
      match cs with
      | '\n' :: cs => isIndentedFrom blank (kept || blank) cs
      | _ => false
    else c ≠ '#' && c ≠ '\n' && (blank || kept)

/-- Whether a line with tokens starts with blanks. -/
def isIndented (cs : List Char) : Bool :=
  isIndentedFrom false false cs

/-- The tokens of a text, if it consists of such, given the number of open brackets and a bound on
the number of steps. -/
def tokensWithin (depth : Nat) : Nat → List Char → Option (List Token)
  | 0, _ => none
  | _ + 1, [] => some []
  | fuel + 1, c :: cs =>
    if isGap c then tokensWithin depth fuel cs
    else if c = '#' then tokensWithin depth fuel (cs.dropWhile (· ≠ '\n'))
    else if c = '\\' then
      match cs with
      | '\n' :: d :: cs => tokensWithin depth fuel (d :: cs)
      | _ => none
    else if c = '\n' then
      if depth ≠ 0 then tokensWithin depth fuel cs
      else if isIndented cs then none
      else (tokensWithin depth fuel cs).map (.lineEnd :: ·)
    else
      match token? (c :: cs) with
      | none => none
      | some (t, cs) =>
        let depth := depthBehind depth t
        if nestingLimit < depth then none else (tokensWithin depth fuel cs).map (t :: ·)

/-- The tokens of a text, if it consists of such. Neither the first line nor any other outside all
brackets may be indented, and no character may be zero. -/
def tokens? (cs : List Char) : Option (List Token) :=
  let cs := unifyLineEnds cs
  if cs.contains '\x00' || isIndented cs then none else tokensWithin 0 (cs.length + 1) cs

end ChannelGraph.Console.Literal
