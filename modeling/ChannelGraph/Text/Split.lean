import ChannelGraph.Text.Blank

/-!
# Parts of texts

A text is taken apart at every character of a class, or into the words between its blanks.
-/

namespace ChannelGraph.Text

/-- The parts of a text between the characters of a class; there is always one part more than
there are such characters. -/
def splitAt (isBreak : Char → Bool) : List Char → List (List Char)
  | [] => [[]]
  | c :: cs =>
    if isBreak c then [] :: splitAt isBreak cs
    else
      match splitAt isBreak cs with
      | [] => [[c]]
      | l :: ls => (c :: l) :: ls

/-- The words of a text between blanks, the first of them behind some characters, which are given
in reverse. -/
def wordsFrom (word : List Char) : List Char → List (List Char)
  | [] => if word.isEmpty then [] else [word.reverse]
  | c :: cs =>
    if isBlank c then
      if word.isEmpty then wordsFrom [] cs else word.reverse :: wordsFrom [] cs
    else wordsFrom (c :: word) cs

/-- The words of a text between blanks. -/
def words (cs : List Char) : List (List Char) :=
  wordsFrom [] cs

end ChannelGraph.Text
