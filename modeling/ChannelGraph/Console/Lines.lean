import ChannelGraph.Console.Cells
import ChannelGraph.Text.Split

/-!
# Lines of text on a console

A text is shown as the lines between its line ends, and a line that is too wide is broken where a
word begins. Tabs go to the next column whose number is a multiple of eight. A word is taken
together with the blanks behind it, which do not count when it is asked whether it fits, and may
stick out at the end of a line. A word that is too wide for any line is either folded, so that
it goes on in the next lines, or cut, with an ellipsis at its end.
-/

namespace ChannelGraph.Console

/-- What is done with words that are too wide for a line. -/
inductive Overflow where
  /-- They go on in the next line. -/
  | fold
  /-- They are cut and end in an ellipsis. -/
  | ellipsis
deriving DecidableEq

/-! ### Tabs -/

/-- The distance between tab stops. -/
def tabWidth : Nat :=
  8

/-- The parts of a line between its tabs, the first of them in the given column, with spaces for
the tabs. A part is measured together with the first space behind it. -/
def fillTabs (column : Nat) : List (List Char) → List Char
  | [] => []
  | [part] => part
  | part :: parts =>
    let spaced := part ++ [' ']
    let column := column + cells spaced
    let n := (tabWidth - column % tabWidth) % tabWidth
    spaced ++ List.replicate n ' ' ++ fillTabs (column + n) parts

/-- A line with its tabs as spaces. -/
def expandTabs (cs : List Char) : List Char :=
  fillTabs 0 (Text.splitAt (· == '\t') cs)

/-! ### Words -/

/-- The words of a line, each with the blanks behind it, the first of them also with the blanks in
front of it. What has been passed of the current word is given in reverse; `begun` says whether a
character among it is not blank, and `ended` whether blanks follow that. -/
def wordsWithBlanks (word : List Char) (begun ended : Bool) : List Char → List (List Char)
  | [] => if begun then [word.reverse] else []
  | c :: cs =>
    if Text.isBlank c then wordsWithBlanks (c :: word) begun begun cs
    else if ended then word.reverse :: wordsWithBlanks [c] true false cs
    else wordsWithBlanks (c :: word) true false cs

/-- The lines that words make behind the characters of a line that take some cells already. -/
def fillLines (width : Nat) (overflow : Overflow) (line : List Char) (used : Nat) :
    List (List Char) → List (List Char)
  | [] => [line]
  | w :: ws =>
    let needed := cells (Text.trimRight Text.isBlank w)
    let before := if line.isEmpty then [] else [line]
    if used + needed ≤ width then fillLines width overflow (line ++ w) (used + cells w) ws
    else if width < needed ∧ overflow = .fold then
      let parts := chopCells width w
      let last := parts.getLastD []
      before ++ parts.dropLast ++ fillLines width overflow last (cells last) ws
    else before ++ fillLines width overflow w (cells w) ws

/-! ### Lines -/

/-- Remove blanks at the end of a line as far as it has more characters than fit. -/
def trimExcess (width : Nat) (cs : List Char) : List Char :=
  let blanks := cs.length - (Text.trimRight Text.isBlank cs).length
  cs.take (cs.length - min blanks (cs.length - width))

/-- A line cut to a width. -/
def cutLine? (width : Nat) (overflow : Overflow) (cs : List Char) : Option (List Char) :=
  if cells cs ≤ width then some cs
  else
    match overflow with
    | .fold => takeCells? width cs
    | .ellipsis => (takeCells? (width - 1) cs).map (· ++ ['…'])

/-- The lines in which a line of a text is shown. -/
def wrapLine (width : Nat) (overflow : Overflow) (cs : List Char) : List (List Char) :=
  let line := expandTabs cs
  let broken :=
    match wordsWithBlanks [] false false line with
    | [] => [line]
    | words => fillLines width overflow [] 0 words
  broken.map (trimExcess width)

/-- The lines in which a text is shown, before they are cut to the width. -/
def wrap (width : Nat) (overflow : Overflow) (cs : List Char) : List (List Char) :=
  (Text.splitAt (· == '\n') cs).flatMap (wrapLine width overflow)

end ChannelGraph.Console
