import ChannelGraph.Console.Lines
import ChannelGraph.Console.Markup

/-!
# Blocks of console output

What is printed at once: some markup, a text as it is, a table or a framed text. A table has
headed columns, each aligned to one side; its cells hold markup, which may take several lines.
The console has a limited width: texts go on in the next line, and the widest columns of a table
give way to the others. A block is shown completely or, if some markup in it cannot be shown, not
at all.
-/

namespace ChannelGraph.Console

/-- The side to which the cells of a column are aligned. -/
inductive Side where
  | left
  | right
deriving DecidableEq

namespace Side

/-- The word for a side. -/
def word : Side → String
  | left => "left"
  | right => "right"

end Side

/-- A column of a table. -/
structure Column where
  /-- The text above the column. -/
  heading : String
  /-- The side to which the cells are aligned. -/
  side : Side := .left
deriving DecidableEq

/-- A table with headed columns. -/
structure Table where
  /-- The columns. -/
  columns : List Column
  /-- The rows, each with a cell for every column. -/
  rows : List (List Markup)
deriving DecidableEq

/-- What is printed at once. -/
inductive Block where
  /-- Markup. -/
  | markup (m : Markup)
  /-- A text without any markup. -/
  | verbatim (s : String)
  /-- A table. -/
  | table (t : Table)
  /-- A text in a frame with a title. -/
  | panel (title body : String)
deriving DecidableEq

/-! ### Texts -/

/-- The number of cells in a line of the console. -/
def screenWidth : Nat :=
  4000

/-- A line cut to a width. -/
def cutLine (width : Nat) (overflow : Overflow) (cs : List Char) :
    Except Markup.Fault (List Char) :=
  match cutLine? width overflow cs with
  | none => .error .uncut
  | some cs => .ok cs

/-- Lines cut to the whole console. -/
def screenLines (lines : List (List Char)) : Except Markup.Fault (List String) :=
  lines.mapM fun l ↦ (cutLine screenWidth .fold l).map String.ofList

/-- Whether characters in a style come into one of the lines of a text, whose number is given. A
text that is taken apart loses those among them that are no characters at all. -/
def isKept (text : List Char) (lines : Nat) (s : Markup.Span) : Bool :=
  (lines == 1 && '\t' ∉ text) ||
    ((text.drop s.start).take (s.stop - s.start)).any fun c ↦ c ≠ '\n'

/-- The lines that markup shows, given how its text is broken. Styles are looked at only now, so
that a colour whose components are no numbers is found here if it is among the parameters of a
tag; all other words that mean no style are passed over. -/
def markupLines (broken : List Char → List (List Char)) (m : Markup) :
    Except Markup.Fault (List (List Char)) :=
  match m.read with
  | .error f => .error f
  | .ok (text, spans) =>
    let lines := broken text
    let isRefused (s : Markup.Span) : Bool :=
      isKept text lines.length s && Style.lacksNumber s.style
    if spans.any isRefused then .error .color else .ok lines

/-! ### Tables -/

/-- Fill a text up to a width with spaces. -/
def pad (side : Side) (width : Nat) (cs : List Char) : String :=
  let filler := List.replicate (width - cells cs) ' '
  String.ofList (match side with | .left => cs ++ filler | .right => filler ++ cs)

/-- A horizontal rule of the given widths between its ends. -/
def rule (start dash cross stop : String) (widths : List Nat) : String :=
  let part (n : Nat) : String := String.join (List.replicate (n + 2) dash)
  start ++ cross.intercalate (widths.map part) ++ stop

/-- The characters at which the lines end that a text is measured by. -/
def isLineBreak (c : Char) : Bool :=
  c.toNat ∈ [0x0A, 0x0B, 0x0C, 0x0D, 0x1C, 0x1D, 0x1E, 0x85, 0x2028, 0x2029]

/-- The width of a text, which is that of its widest line. -/
def textWidth (cs : List Char) : Nat :=
  ((Text.splitAt isLineBreak cs).map cells).foldl max 0

/-- The space beside the texts of a column. -/
def columnPadding : Nat :=
  2

/-- The width of a column with its padding, given the width of its texts and a limit. -/
def columnWidth (limit width : Nat) : Nat :=
  min (min width limit + columnPadding) limit

/-- The whole number that is nearest to a quotient, the even one of two. -/
def divNearest (n d : Nat) : Nat :=
  let q := n / d
  let r := n % d
  if 2 * r < d then q else if d < 2 * r then q + 1 else q + q % 2

/-- Take an excess away from the columns of a width, at most a given number from each. The number of
these columns is given. -/
def takeAway (widest most : Nat) : Nat → Nat → List Nat → List Nat
  | _, _, [] => []
  | excess, count, w :: ws =>
    if w = widest then
      let n := min most (divNearest excess count)
      (w - n) :: takeAway widest most (excess - n) (count - 1) ws
    else w :: takeAway widest most excess count ws

/-- Make the widest columns narrower until the widths fit into a limit, the widest first up to the
width of those that come next. The number of steps is bounded. -/
def collapse (limit : Nat) : Nat → List Nat → List Nat
  | 0, widths => widths
  | fuel + 1, widths =>
    let total := widths.foldl (· + ·) 0
    if total ≤ limit then widths
    else
      let widest := widths.foldl max 0
      let next := (widths.filter (· ≠ widest)).foldl max 0
      let excess := total - limit
      collapse limit fuel
        (takeAway widest (min excess (widest - next)) excess (widths.count widest) widths)

/-- The lines of a text in a column whose width is given without padding. -/
def cellLines (side : Side) (width : Nat) (m : Markup) : Except Markup.Fault (List String) :=
  (markupLines (wrap width .ellipsis) m).bind fun ls ↦
    ls.mapM fun l ↦
      let l :=
        match side with
        | .left => l
        | .right => Text.trimRight Text.isBlank l
      (cutLine width .ellipsis l).map (pad side width)

/-- A line of cells between bars. -/
def cellLine (bar : String) (texts : List String) : String :=
  bar ++ bar.intercalate (texts.map fun t ↦ " " ++ t ++ " ") ++ bar

/-- The lines of a row, whose cells have several lines each in columns of the given widths. -/
def rowLines (bar : String) (widths : List Nat) (cells : List (List String)) : List String :=
  let height := (cells.map List.length).foldl max 1
  (List.range height).map fun i ↦
    cellLine bar ((widths.zip cells).map fun c ↦ c.2[i]?.getD (pad .left c.1 []))

namespace Table

/-- The rows of a table, the headings in front of them. -/
def allRows (t : Table) : List (List Markup) :=
  t.columns.map (fun c ↦ ⟨c.heading⟩) :: t.rows

/-- The cells of a column from top to bottom. -/
def column (t : Table) (i : Nat) : List Markup :=
  t.allRows.filterMap (·[i]?)

/-- The widths of the columns without their padding. -/
def widths (t : Table) : Except Markup.Fault (List Nat) := do
  let count := t.columns.length
  let limit := screenWidth - (count + 1)
  let natural ← (List.range count).mapM fun i ↦ do
    let texts ← (t.column i).mapM Markup.read
    return columnWidth limit ((texts.map fun r ↦ textWidth r.1).foldl max 0)
  let excess := natural.foldl (· + ·) 0 - limit
  return (collapse limit excess natural).map (· - columnPadding)

/-- The lines of a table. -/
def lines (t : Table) : Except Markup.Fault (List String) := do
  let widths ← t.widths
  let shape := (t.columns.map Column.side).zip widths
  let rows ← t.allRows.mapM fun row ↦ (shape.zip row).mapM fun c ↦ cellLines c.1.1 c.1.2 c.2
  return [rule "┏" "━" "┳" "┓" widths] ++
    (rows.take 1).flatMap (rowLines "┃" widths) ++
    [rule "┡" "━" "╇" "┩" widths] ++
    (rows.drop 1).flatMap (rowLines "│" widths) ++
    [rule "└" "─" "┴" "┘" widths]

end Table

/-! ### Panels -/

/-- A text in a frame with a title. -/
def panelLines (title body : String) : List String :=
  let width := max body.length (title.length + 2)
  let edge := String.join (List.replicate (width - title.length) "─")
  ["╭─ " ++ title ++ " " ++ edge ++ "╮", "│ " ++ pad .left (width + 1) body.toList ++ " │",
    rule "╰" "─" "─" "╯" [width + 1]]

namespace Block

/-- The lines of a block. -/
def lines : Block → Except Markup.Fault (List String)
  | markup m => (markupLines (wrap screenWidth .fold) m).bind screenLines
  | verbatim s => screenLines (wrap screenWidth .fold (shownText s.toList))
  | table t => t.lines
  | panel title body => .ok (panelLines title body)

end Block

end ChannelGraph.Console
