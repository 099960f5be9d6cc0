import ChannelGraph.Decimal.Written
import ChannelGraph.Json.Basic
import ChannelGraph.Text.Quoted

/-!
# JSON values in messages

A message that refuses a value shows it: texts are quoted, truth values and the null value are
words, and arrays and objects list their contents with a space behind each comma and colon.
-/

namespace ChannelGraph

namespace Json

/-- How messages write floating-point numbers. -/
def messageFormat : FloatFormat :=
  ⟨-4, 15, 2, "nan", "inf", "-inf"⟩

mutual

/-- A value as messages show it. -/
def shown : Json → String
  | null => "None"
  | bool b => if b then "True" else "False"
  | int n => toString n
  | float x => x.written messageFormat
  | string s => Text.quoted s
  | array items => "[" ++ ", ".intercalate (shownItems items) ++ "]"
  | object entries => "\x7b" ++ ", ".intercalate (shownEntries entries) ++ "\x7d"

/-- The items of an array as messages show them. -/
def shownItems : List Json → List String
  | [] => []
  | v :: vs => shown v :: shownItems vs

/-- The entries of an object as messages show them. -/
def shownEntries : List (String × Json) → List String
  | [] => []
  | (k, v) :: es => (Text.quoted k ++ ": " ++ shown v) :: shownEntries es

end

end Json

end ChannelGraph
