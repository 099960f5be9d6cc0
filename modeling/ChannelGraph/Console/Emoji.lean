import ChannelGraph.Console.EmojiTable
import ChannelGraph.Text.LowerCase

/-!
# Emoji by name

A name between colons, as in `:dog:`, stands for an emoji. Case does not matter, and a suffix
`-emoji` or `-text` says how the emoji is to be presented. A name that nothing is known about
stays as it is, together with its colons, and so does a colon that no other colon follows
before the next blank.
-/

namespace ChannelGraph.Console

/-- The characters that say how the emoji before them is presented, by their suffix. -/
def presentations : List (List Char × List Char) :=
  [("-emoji".toList, ['\ufe0f']), ("-text".toList, ['\ufe0e'])]

/-- What a code between colons stands for: its name without a suffix, and the characters for the
suffix. -/
def splitPresentation (code : List Char) : List Char × List Char :=
  match presentations.find? fun p ↦ p.1.isSuffixOf code with
  | some p => (code.take (code.length - p.1.length), p.2)
  | none => (code, [])

/-- The emoji that a code between colons stands for. -/
def emoji? (code : List Char) : Option (List Char) :=
  let (name, presentation) := splitPresentation code
  (emojiTable.lookup (Text.lowerCase name)).map (· ++ presentation)

/-- A text with emoji in place of their names. The characters passed since the last colon are given
in reverse, if they may become a name. -/
def replaceFrom : Option (List Char) → List Char → List Char
  | none, [] => []
  | some code, [] => ':' :: code.reverse
  | none, c :: cs => if c = ':' then replaceFrom (some []) cs else c :: replaceFrom none cs
  | some code, c :: cs =>
    if c = ':' then
      (emoji? code.reverse).getD (':' :: code.reverse ++ [':']) ++ replaceFrom none cs
    else if Text.isBlank c then ':' :: code.reverse ++ c :: replaceFrom none cs
    else replaceFrom (some (c :: code)) cs

/-- A text with emoji in place of their names. -/
def withEmoji (cs : List Char) : List Char :=
  replaceFrom none cs

end ChannelGraph.Console
