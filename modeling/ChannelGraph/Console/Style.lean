import ChannelGraph.Decimal.Numeral
import ChannelGraph.Text.DecimalDigit
import ChannelGraph.Text.LowerCase
import ChannelGraph.Text.Split

/-!
# Styles

A style is written in words: attributes such as `bold`, each of which may be taken back by
`not`, a colour, a colour of the ground behind `on`, and an address behind `link`. Where a word
is repeated the last one counts. Two writings mean the same style exactly if `Style.name` gives
them the same text.

Words that mean no style are refused. A colour given by three numbers whose places are not all
filled is refused in a way of its own.
-/

namespace ChannelGraph.Console

/-- Why words mean no style. -/
inductive StyleFault where
  /-- A word is unknown or missing. -/
  | unreadable
  /-- A component of a colour is no number. -/
  | noNumber
deriving DecidableEq

/-! ### Colours -/

namespace Color

/-- The colours that have a name, between blanks. -/
def nameList : String :=
  "black red green yellow blue magenta cyan white bright_black bright_red bright_green
bright_yellow bright_blue bright_magenta bright_cyan bright_white grey0 gray0 navy_blue
dark_blue blue3 blue1 dark_green deep_sky_blue4 dodger_blue3 dodger_blue2 green4 spring_green4
turquoise4 deep_sky_blue3 dodger_blue1 green3 spring_green3 dark_cyan light_sea_green
deep_sky_blue2 deep_sky_blue1 spring_green2 cyan3 dark_turquoise turquoise2 green1 spring_green1
medium_spring_green cyan2 cyan1 dark_red deep_pink4 purple4 purple3 blue_violet orange4 grey37
gray37 medium_purple4 slate_blue3 royal_blue1 chartreuse4 dark_sea_green4 pale_turquoise4
steel_blue steel_blue3 cornflower_blue chartreuse3 cadet_blue sky_blue3 steel_blue1 pale_green3
sea_green3 aquamarine3 medium_turquoise chartreuse2 sea_green2 sea_green1 aquamarine1
dark_slate_gray2 dark_magenta dark_violet purple light_pink4 plum4 medium_purple3 slate_blue1
yellow4 wheat4 grey53 gray53 light_slate_grey light_slate_gray medium_purple light_slate_blue
dark_olive_green3 dark_sea_green light_sky_blue3 sky_blue2 dark_sea_green3 dark_slate_gray3
sky_blue1 chartreuse1 light_green pale_green1 dark_slate_gray1 red3 medium_violet_red magenta3
dark_orange3 indian_red hot_pink3 medium_orchid3 medium_orchid medium_purple2 dark_goldenrod
light_salmon3 rosy_brown grey63 gray63 medium_purple1 gold3 dark_khaki navajo_white3 grey69
gray69 light_steel_blue3 light_steel_blue yellow3 dark_sea_green2 light_cyan3 light_sky_blue1
green_yellow dark_olive_green2 dark_sea_green1 pale_turquoise1 deep_pink3 magenta2 hot_pink2
orchid medium_orchid1 orange3 light_pink3 pink3 plum3 violet light_goldenrod3 tan misty_rose3
thistle3 plum2 khaki3 light_goldenrod2 light_yellow3 grey84 gray84 light_steel_blue1 yellow2
dark_olive_green1 honeydew2 light_cyan1 red1 deep_pink2 deep_pink1 magenta1 orange_red1
indian_red1 hot_pink dark_orange salmon1 light_coral pale_violet_red1 orchid2 orchid1 orange1
sandy_brown light_salmon1 light_pink1 pink1 plum1 gold1 navajo_white1 misty_rose1 thistle1
yellow1 light_goldenrod1 khaki1 wheat1 cornsilk1 grey100 gray100 grey3 gray3 grey7 gray7 grey11
gray11 grey15 gray15 grey19 gray19 grey23 gray23 grey27 gray27 grey30 gray30 grey35 gray35
grey39 gray39 grey42 gray42 grey46 gray46 grey50 gray50 grey54 gray54 grey58 gray58 grey62
gray62 grey66 gray66 grey70 gray70 grey74 gray74 grey78 gray78 grey82 gray82 grey85 gray85
grey89 gray89 grey93 gray93"

/-- The names of colours. -/
def names : List (List Char) :=
  "default".toList :: Text.words nameList.toList

/-- The characters between two given ones, if a text starts and ends with these. -/
def between? (opening closing cs : List Char) : Option (List Char) :=
  if opening.isPrefixOf cs ∧ closing.isSuffixOf (cs.drop opening.length) then
    some ((cs.drop opening.length).take (cs.length - opening.length - closing.length))
  else none

/-- The largest component of a colour, and the largest number of a numbered one. -/
def limit : Nat :=
  255

/-- Whether characters are the six digits of a colour. -/
def isHexTriple (cs : List Char) : Bool :=
  cs.length == 6 && cs.all fun c ↦ c.isDigit || ('a' ≤ c && c ≤ 'f')

/-- Whether characters are the number of a colour. -/
def isNumber (cs : List Char) : Bool :=
  1 ≤ cs.length && cs.length ≤ 3 && cs.all Char.isDigit && Numeral.value cs ≤ limit

/-- The number that is a component of a colour, in digits of any script. -/
def component? (cs : List Char) : Option Nat :=
  if Numeral.digitLimit < cs.length then none else Text.decimal? cs

/-- Check the components of a colour. -/
def checkComponents (cs : List Char) : Except StyleFault Unit :=
  let parts := Text.splitAt (· == ',') cs
  let isAllowed (c : Char) : Bool := c == ',' || (Text.digitValue? c).isSome
  if cs.isEmpty || !cs.all isAllowed || parts.length ≠ 3 then .error .unreadable
  else
    match parts.mapM component? with
    | none => .error .noNumber
    | some values => if values.all (· ≤ limit) then .ok () else .error .unreadable

/-- The colour that a word means, by its writing in lower case. -/
def read (word : List Char) : Except StyleFault String :=
  let cs := Text.lowerCase word
  let known : Except StyleFault Unit :=
    if cs ∈ names then .ok ()
    else
      match cs with
      | '#' :: digits => if isHexTriple digits then .ok () else .error .unreadable
      | _ =>
        match between? "color(".toList [')'] cs, between? "rgb(".toList [')'] cs with
        | some number, _ => if isNumber number then .ok () else .error .unreadable
        | none, some components => checkComponents components
        | none, none => .error .unreadable
  known.map fun _ ↦ String.ofList cs

end Color

/-! ### Attributes -/

/-- The attributes of a style. -/
inductive Attribute where
  | bold
  | dim
  | italic
  | underline
  | blink
  | blink2
  | reverse
  | conceal
  | strike
  | underline2
  | frame
  | encircle
  | overline
deriving DecidableEq

namespace Attribute

/-- All attributes in the order in which a style names them, with their words, the longer one
first. -/
def table : List (Attribute × List String) :=
  [(bold, ["bold", "b"]), (dim, ["dim", "d"]), (italic, ["italic", "i"]),
    (underline, ["underline", "u"]), (blink, ["blink"]), (blink2, ["blink2"]),
    (reverse, ["reverse", "r"]), (conceal, ["conceal", "c"]), (strike, ["strike", "s"]),
    (underline2, ["underline2", "uu"]), (frame, ["frame"]), (encircle, ["encircle"]),
    (overline, ["overline", "o"])]

/-- The attribute that a word means. -/
def ofWord? (word : String) : Option Attribute :=
  (table.find? fun a ↦ word ∈ a.2).map Prod.fst

end Attribute

/-! ### Styles -/

/-- A style. -/
structure Style where
  /-- What was said about attributes, the last first. -/
  attributes : List (Attribute × Bool) := []
  /-- The colour. -/
  color : Option String := none
  /-- The colour of the ground. -/
  ground : Option String := none
  /-- The address. -/
  link : Option String := none
deriving DecidableEq

namespace Style

/-- A style with something more said about an attribute. -/
def say (s : Style) (a : Attribute) (holds : Bool) : Style :=
  { s with attributes := (a, holds) :: s.attributes }

/-- The style that words mean behind some that have been read. -/
def readWords (s : Style) : List (List Char) → Except StyleFault Style
  | [] => .ok s
  | w :: ws =>
    let word := String.ofList (Text.lowerCase w)
    if word = "on" then
      match ws with
      | [] => .error .unreadable
      | c :: ws =>
        match Color.read c with
        | .error f => .error f
        | .ok color => readWords { s with ground := some color } ws
    else if word = "not" then
      match ws with
      | [] => .error .unreadable
      | a :: ws =>
        match Attribute.ofWord? (String.ofList a) with
        | none => .error .unreadable
        | some a => readWords (s.say a false) ws
    else if word = "link" then
      match ws with
      | [] => .error .unreadable
      | address :: ws => readWords { s with link := some (String.ofList address) } ws
    else
      match Attribute.ofWord? word with
      | some a => readWords (s.say a true) ws
      | none =>
        match Color.read w with
        | .error f => .error f
        | .ok color => readWords { s with color := some color } ws

/-- The words for what a style says about attributes. -/
def attributeWords (s : Style) : List String :=
  Attribute.table.filterMap fun a ↦
    match s.attributes.lookup a.1, a.2 with
    | some true, word :: _ => some word
    | some false, word :: _ => some ("not " ++ word)
    | _, _ => none

/-- The one writing of a style: attributes in their order, colour, ground and address. A style of
which nothing is said is called `none`. -/
def name (s : Style) : String :=
  let words := s.attributeWords ++ s.color.toList ++
    (s.ground.map fun c ↦ "on " ++ c).toList ++ (s.link.map fun a ↦ "link " ++ a).toList
  if words.isEmpty then "none" else " ".intercalate words

/-- The name of the style that a text means; a text that means none is its own name, in lower case
and without blanks around it. -/
def nameOf (text : List Char) : Except StyleFault String :=
  if Text.trim Text.isBlank text = "none".toList then .ok "none"
  else
    match readWords {} (Text.words text) with
    | .ok s => .ok s.name
    | .error .unreadable => .ok (String.ofList (Text.lowerCase (Text.trim Text.isBlank text)))
    | .error .noNumber => .error .noNumber

/-- Whether a text is no style because a component of a colour is no number. -/
def lacksNumber (text : List Char) : Bool :=
  match readWords {} (Text.words text) with
  | .error .noNumber => true
  | _ => false

end Style

end ChannelGraph.Console
