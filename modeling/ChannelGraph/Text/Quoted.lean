import ChannelGraph.Text.Hex
import ChannelGraph.Text.Printable

/-!
# Quoted text in messages

Messages show a text between quotes so that every character of it can be told: an
apostrophe is the quote unless the text contains apostrophes and no double quotes. The
quote, the backslash and everything unprintable are written as escapes; all other
characters stand for themselves.
-/

namespace ChannelGraph.Text

/-- The quote around a text: the double quote exactly if the text contains an apostrophe and
no double quote. -/
def quoteFor (cs : List Char) : Char :=
  if cs.contains '\'' && !cs.contains '"' then '"' else '\''

/-- How one character is written between the given quotes: with the shortest escape of width
two, four or eight if it is unprintable and has no escape of its own. -/
def escapeChar (quote c : Char) : List Char :=
  if c = quote ∨ c = '\\' then ['\\', c]
  else if c = '\n' then ['\\', 'n']
  else if c = '\r' then ['\\', 'r']
  else if c = '\t' then ['\\', 't']
  else if isPrintable c then [c]
  else if c.toNat < 0x100 then '\\' :: 'x' :: hexDigits 2 c.toNat
  else if c.toNat < 0x10000 then '\\' :: 'u' :: hexDigits 4 c.toNat
  else '\\' :: 'U' :: hexDigits 8 c.toNat

/-- A text between quotes. -/
def quoted (s : String) : String :=
  let cs := s.toList
  let q := quoteFor cs
  String.ofList (q :: cs.flatMap (escapeChar q) ++ [q])

end ChannelGraph.Text
