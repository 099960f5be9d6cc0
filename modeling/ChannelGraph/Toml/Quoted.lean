import ChannelGraph.Text.Hex
import ChannelGraph.Text.ReadAt

/-!
# TOML strings

Strings are written in four ways. Between apostrophes everything stands for itself; between
double quotes a backslash starts an escape. Either quote written three times makes a string
that may have several lines: a line end right behind the opening quotes is left out, one or two
more quotes may stand in front of the closing ones, and between double quotes a backslash at
the end of a line takes the white space up to the next visible character with it.

Control characters are refused, except for tabs and, in strings of several lines, line ends.
-/

namespace ChannelGraph

namespace Toml

open Text (ReadAt)

/-- The white space within a line. -/
def isBlank (c : Char) : Bool :=
  c == ' ' || c == '\t'

/-- The white space between lines and within them. -/
def isSpace (c : Char) : Bool :=
  isBlank c || c == '\n'

/-- Control characters, tabs excepted. -/
def isControl (c : Char) : Bool :=
  (c.toNat < 0x20 && c != '\t') || c.toNat == 0x7F

/-- Whether a character is refused in a string of one line, or of several. -/
def isRefused (several : Bool) (c : Char) : Bool :=
  isControl c && !(several && c == '\n')

/-! ### Between apostrophes -/

/-- The characters in front of an apostrophe, and what follows it. -/
def literal? : List Char → Option (List Char × List Char)
  | [] => none
  | c :: cs =>
    if c = '\'' then some ([], cs)
    else if isRefused false c then none
    else (literal? cs).map fun r ↦ (c :: r.1, r.2)

/-- The characters in front of three apostrophes, and what follows those. -/
def literalLines? : List Char → Option (List Char × List Char)
  | [] => none
  | '\'' :: '\'' :: '\'' :: cs => some ([], cs)
  | c :: cs =>
    if isRefused true c then none else (literalLines? cs).map fun r ↦ (c :: r.1, r.2)

/-! ### Between double quotes -/

/-- The character with a number that is not the half of a surrogate pair. -/
def scalar? (n : Nat) : Option Char :=
  if n < 0xD800 ∨ (0xE000 ≤ n ∧ n < 0x110000) then some (Char.ofNat n) else none

/-- The character of an escape by its number, which has the given count of digits. -/
def numbered? (count : Nat) (cs : List Char) : Option (Char × List Char) :=
  let digits := cs.take count
  if digits.length < count then none
  else
    match (Text.ofHexDigits? 0 digits).bind scalar? with
    | none => none
    | some c => some (c, cs.drop count)

/-- The character of an escape, by what follows the backslash. -/
def escape? : List Char → Option (Char × List Char)
  | 'b' :: cs => some ('\x08', cs)
  | 't' :: cs => some ('\t', cs)
  | 'n' :: cs => some ('\n', cs)
  | 'f' :: cs => some ('\x0c', cs)
  | 'r' :: cs => some ('\r', cs)
  | '"' :: cs => some ('"', cs)
  | '\\' :: cs => some ('\\', cs)
  | 'u' :: cs => numbered? 4 cs
  | 'U' :: cs => numbered? 8 cs
  | _ => none

/-- What follows the white space that a backslash at the end of a line takes with it, by what
follows the backslash. -/
def joined? (cs : List Char) : Option (List Char) :=
  match cs with
  | [] => none
  | c :: _ =>
    if !isSpace c then none
    else
      match cs.dropWhile isBlank with
      | [] => some []
      | '\n' :: rest => some (rest.dropWhile isSpace)
      | _ => none

/-- The characters that a backslash stands for, and what follows. -/
def backslash? (several : Bool) (cs : List Char) : Option (List Char × List Char) :=
  match if several then joined? cs else none with
  | some rest => some ([], rest)
  | none => (escape? cs).map fun r ↦ ([r.1], r.2)

/-- What follows the closing quotes, if they are at the front. -/
def closed? (several : Bool) : List Char → Option (List Char)
  | '"' :: cs =>
    if several then
      match cs with
      | '"' :: '"' :: rest => some rest
      | _ => none
    else some cs
  | _ => none

/-- The characters in front of the closing double quotes, and what follows those. -/
def basicAt (several : Bool) (cs : List Char) : ReadAt (List Char) cs :=
  match closed? several cs with
  | some rest => .ofOption cs (some ([], rest))
  | none =>
    match cs with
    | [] => none
    | c :: behind =>
      if c = '\\' then
        match ReadAt.ofOption (c :: behind) (backslash? several behind) with
        | none => none
        | some ⟨(meant, behind'), h⟩ =>
          match basicAt several behind' with
          | none => none
          | some ⟨(s, rest), h'⟩ => some ⟨(meant ++ s, rest), Nat.lt_trans h' h⟩
      else if isRefused several c then none
      else
        match basicAt several behind with
        | none => none
        | some ⟨(s, rest), h⟩ => some ⟨(c :: s, rest), Nat.lt_succ_of_lt h⟩
termination_by cs.length
decreasing_by
  · exact h
  · exact Nat.lt_succ_self _

/-! ### All strings -/

/-- Leave out a line end at the front. -/
def skipLineEnd : List Char → List Char
  | '\n' :: cs => cs
  | cs => cs

/-- Add up to two quotes that follow to a string of several lines. -/
def takeQuotes (quote : Char) (s : List Char) : List Char → List Char × List Char
  | [] => (s, [])
  | [c] => if c = quote then (s ++ [c], []) else (s, [c])
  | c :: d :: cs =>
    if c = quote then if d = quote then (s ++ [c, d], cs) else (s ++ [c], d :: cs)
    else (s, c :: d :: cs)

/-- The string of one line at the front. -/
def line? : List Char → Option (List Char × List Char)
  | '"' :: cs => (basicAt false cs).toOption
  | '\'' :: cs => literal? cs
  | _ => none

/-- The string at the front. -/
def string? : List Char → Option (List Char × List Char)
  | '"' :: '"' :: '"' :: cs =>
    (basicAt true (skipLineEnd cs)).toOption.map fun r ↦ takeQuotes '"' r.1 r.2
  | '\'' :: '\'' :: '\'' :: cs =>
    (literalLines? (skipLineEnd cs)).map fun r ↦ takeQuotes '\'' r.1 r.2
  | cs => line? cs

end Toml

end ChannelGraph
