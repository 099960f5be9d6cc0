import ChannelGraph.Console.Emoji

/-!
# Characters that are shown

Before a text is laid out, names of emoji in it are replaced, and then the control characters
that would move the cursor back or down are dropped.
-/

namespace ChannelGraph.Console

/-- Bell, backspace, vertical tab, form feed and carriage return are not shown. -/
def isDropped (c : Char) : Bool :=
  c.toNat ∈ [7, 8, 11, 12, 13]

/-- The characters that are shown of a text. -/
def shownText (cs : List Char) : List Char :=
  (withEmoji cs).filter fun c ↦ !isDropped c

end ChannelGraph.Console
