import ChannelGraph.Text.CharacterName.Table
import ChannelGraph.Text.Hex
import ChannelGraph.Text.Ranges
import ChannelGraph.Text.Split

/-!
# Names of characters

Characters have names, which consist of words. Most names are listed in a table, where case does
not matter. The names of Hangul syllables follow from how they sound, and those of Chinese
characters from their numbers; these names have to be written in capitals.

`CharacterName.isName` decides whether a text is the name of a character.
-/

namespace ChannelGraph.Text.CharacterName

/-! ### Listed names -/

/-- Whether the words of a name are among the alternatives for their places. -/
def matchesWords : List (List (List Char)) → List (List Char) → Bool
  | [], [] => true
  | choice :: choices, w :: ws => choice.contains w && matchesWords choices ws
  | _, _ => false

/-- The alternatives for the words of the names that stand together in the table. -/
def choices (entry : List Char) : List (List (List Char)) :=
  (words entry).map (splitAt (· == '/'))

/-- Whether a name in capitals is in the table. -/
def isListed (name : List Char) : Bool :=
  let parts := splitAt (· == ' ') name
  match name.head?.bind fun c ↦ table.lookup c with
  | none => false
  | some entries =>
    (splitAt (· == ',') entries.toList).any fun e ↦ matchesWords (choices e) parts

/-! ### Names by sound -/

/-- The sounds that a syllable may start with. -/
def leadingSounds : List String :=
  ["", "G", "GG", "N", "D", "DD", "R", "M", "B", "BB", "S", "SS", "J", "JJ", "C", "K", "T", "P",
    "H"]

/-- The vowels of syllables. -/
def vowels : List String :=
  ["A", "AE", "YA", "YAE", "EO", "E", "YEO", "YE", "O", "WA", "WAE", "OE", "YO", "U", "WEO", "WE",
    "WI", "YU", "EU", "YI", "I"]

/-- The sounds that a syllable may end with. -/
def trailingSounds : List String :=
  ["", "G", "GG", "GS", "N", "NJ", "NH", "D", "L", "LG", "LM", "LB", "LS", "LT", "LP", "LH", "M",
    "B", "BS", "S", "SS", "NG", "J", "C", "K", "T", "P", "H"]

/-- What follows the longest sound at the front of a text. -/
def afterSound? (sounds : List String) (cs : List Char) : Option (List Char) :=
  let fitting := sounds.filter fun s ↦ s.toList.isPrefixOf cs
  if fitting.isEmpty then none
  else some (cs.drop ((fitting.map String.length).foldl max 0))

/-- Whether a text is a syllable: sounds at both ends, which may be missing, and a vowel between
them. -/
def isSyllable (cs : List Char) : Bool :=
  ((afterSound? leadingSounds cs).bind fun cs ↦
    (afterSound? vowels cs).bind fun cs ↦ afterSound? trailingSounds cs) == some []

/-! ### Names by number -/

/-- The ranges of the Chinese characters that are named by their numbers. -/
def ideographRanges : List (Nat × Nat) :=
  [(0x3400, 0x4DBF), (0x4E00, 0x9FFF), (0x20000, 0x2A6DF), (0x2A700, 0x2B738), (0x2B740, 0x2B81D),
    (0x2B820, 0x2CEA1), (0x2CEB0, 0x2EBE0), (0x30000, 0x3134A)]

/-- Whether a text is the number of a Chinese character, in four or five hexadecimal digits. -/
def isIdeographNumber (cs : List Char) : Bool :=
  (cs.length == 4 || cs.length == 5) && cs.all (fun c ↦ !c.isLower) &&
    match ofHexDigits? 0 cs with
    | some n => inRanges ideographRanges n
    | none => false

/-! ### Names -/

/-- Whether a text is the name of a character. -/
def isName (name : List Char) : Bool :=
  match "HANGUL SYLLABLE ".toList.isPrefixOf? name,
    "CJK UNIFIED IDEOGRAPH-".toList.isPrefixOf? name with
  | some sound, _ => isSyllable sound
  | none, some number => isIdeographNumber number
  | none, none => isListed (name.map Char.toUpper)

end ChannelGraph.Text.CharacterName
