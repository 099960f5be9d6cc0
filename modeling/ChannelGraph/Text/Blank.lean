/-!
# White space

Two classes of characters count as blank. `isWhite` is the property `White_Space` of the
character database, by which numerals in documents are trimmed; `isBlank` adds the four
information separators U+001C to U+001F and is the class that separates tokens and is
stripped around texts.
-/

namespace ChannelGraph.Text

/-- The characters with the property `White_Space`. -/
def isWhite (c : Char) : Bool :=
  let n := c.toNat
  (0x09 ≤ n && n ≤ 0x0D) || n == 0x20 || n == 0x85 || n == 0xA0 || n == 0x1680 ||
    (0x2000 ≤ n && n ≤ 0x200A) || n == 0x2028 || n == 0x2029 || n == 0x202F || n == 0x205F ||
    n == 0x3000

/-- White space, or one of the information separators. -/
def isBlank (c : Char) : Bool :=
  isWhite c || (0x1C ≤ c.toNat && c.toNat ≤ 0x1F)

/-- Remove the leading characters of a class. -/
def trimLeft (p : Char → Bool) (cs : List Char) : List Char :=
  cs.dropWhile p

/-- Remove the trailing characters of a class. -/
def trimRight (p : Char → Bool) (cs : List Char) : List Char :=
  (cs.reverse.dropWhile p).reverse

/-- Remove the characters of a class at both ends. -/
def trim (p : Char → Bool) (cs : List Char) : List Char :=
  trimRight p (trimLeft p cs)

end ChannelGraph.Text
