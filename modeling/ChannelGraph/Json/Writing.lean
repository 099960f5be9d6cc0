import ChannelGraph.Decimal.Written
import ChannelGraph.Json.Basic
import ChannelGraph.Text.Hex

/-!
# Writing JSON

A value is written either on one line without any space, or with one item per line, indented
by a number of spaces per level; empty arrays and objects stay on their line. Strings escape
the quote, the backslash and the control characters below the space, nothing else. Floating-
point numbers are written positionally from `1e-5` to below `1e16`; those that are not finite
have no JSON and become `null`.
-/

namespace ChannelGraph

namespace Json

/-- How JSON writes floating-point numbers. -/
def floatFormat : FloatFormat :=
  ⟨-5, 15, 1, "null", "null", "null"⟩

/-- How a character stands in a string. -/
def escapeChar (c : Char) : List Char :=
  if c = '"' ∨ c = '\\' then ['\\', c]
  else if c = '\n' then ['\\', 'n']
  else if c = '\r' then ['\\', 'r']
  else if c = '\t' then ['\\', 't']
  else if c = '\x08' then ['\\', 'b']
  else if c = '\x0c' then ['\\', 'f']
  else if c.toNat < 0x20 then '\\' :: 'u' :: Text.hexDigits 4 c.toNat
  else [c]

/-- A string with its quotes. -/
def quote (s : String) : String :=
  String.ofList ('"' :: s.toList.flatMap escapeChar ++ ['"'])

/-- The layout of a written value: on one line, or with a number of spaces per level. -/
inductive Layout where
  | compact
  | indented (width : Nat)
deriving DecidableEq

namespace Layout

/-- What stands before an item on a level. -/
def lineBreak (level : Nat) : Layout → String
  | compact => ""
  | indented width => "\n" ++ String.ofList (List.replicate (level * width) ' ')

/-- What stands between a key and its value. -/
def colon : Layout → String
  | compact => ":"
  | indented _ => ": "

/-- Written items between brackets on a level. -/
def enclose (layout : Layout) (level : Nat) (opener closer : String) (items : List String) :
    String :=
  if items.isEmpty then opener ++ closer
  else
    let gap := layout.lineBreak (level + 1)
    opener ++ gap ++ ("," ++ gap).intercalate items ++ layout.lineBreak level ++ closer

end Layout

mutual

/-- The text of a value on a level. -/
def writtenAt (layout : Layout) (level : Nat) : Json → String
  | null => "null"
  | bool b => if b then "true" else "false"
  | int n => toString n
  | float x => x.written floatFormat
  | string s => quote s
  | array items => layout.enclose level "[" "]" (itemsAtLevel layout (level + 1) items)
  | object entries =>
    layout.enclose level "\x7b" "\x7d" (entriesAtLevel layout (level + 1) entries)

/-- The texts of the items of an array. -/
def itemsAtLevel (layout : Layout) (level : Nat) : List Json → List String
  | [] => []
  | v :: vs => writtenAt layout level v :: itemsAtLevel layout level vs

/-- The texts of the entries of an object. -/
def entriesAtLevel (layout : Layout) (level : Nat) : List (String × Json) → List String
  | [] => []
  | (k, v) :: es =>
    (quote k ++ layout.colon ++ writtenAt layout level v) :: entriesAtLevel layout level es

end

/-- The text of a value. -/
def written (layout : Layout) (v : Json) : String :=
  writtenAt layout 0 v

end Json

end ChannelGraph
