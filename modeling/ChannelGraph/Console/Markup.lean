import ChannelGraph.Console.Literal.Basic
import ChannelGraph.Console.Shown
import ChannelGraph.Console.Style
import ChannelGraph.Text.WordChar

/-!
# Console markup

Messages are written in a markup in which a tag in square brackets, as in `[red]no[/red]`, sets
a style and takes it away. Styles are not shown here; what matters is which characters of the
markup are text, which belong to tags, and which markup is refused (`Markup.read`).

A bracket opens a tag if one of the letters `a` to `z` or one of `#`, `/` and `@` follows and
the next bracket behind it is a closing one (`tagBody?`). Backslashes in front of a tag are
halved, and an odd one makes the tag text; in front of any other opening bracket one backslash
is dropped. Names of emoji are replaced in every piece of text between tags by itself.

An opening tag names a style, and may have parameters behind an equals sign. A tag whose body
starts with a slash closes the last open tag of its style, however that was written, or the
last open tag at all if it names none, and there has to be one. A tag whose name starts with an
at sign sets an event instead of a style; when it is closed, its parameters have to be a literal,
or a name with arguments that are one.

Text becomes markup by `escape`, which puts a backslash in front of everything that would be a
tag. Since that is decided bracket by bracket, all its tags are text again.
-/

namespace ChannelGraph

open Console

/-- A text in which tags set styles. -/
structure Markup where
  /-- The characters, tags and all. -/
  source : String
deriving DecidableEq

namespace Markup

/-! ### Tags -/

/-- The characters that a tag may start with. -/
def startsTag (c : Char) : Bool :=
  ('a' ≤ c && c ≤ 'z') || c == '#' || c == '/' || c == '@'

/-- The characters in front of the next bracket, if that is a closing one. -/
def upToClose? : List Char → Option (List Char)
  | [] => none
  | c :: cs =>
    if c = ']' then some []
    else if c = '[' then none
    else (upToClose? cs).map (c :: ·)

/-- The body of the tag that an opening bracket in front of the given characters starts. -/
def tagBody? : List Char → Option (List Char)
  | [] => none
  | c :: cs => if startsTag c then (upToClose? cs).map (c :: ·) else none

/-! ### From text to markup -/

/-- Put backslashes in front of tags, so that there is an odd number of them. The number of
backslashes passed just now is given. -/
def escapeFrom (slashes : Nat) : List Char → List Char
  | [] => []
  | c :: cs =>
    if c = '\\' then c :: escapeFrom (slashes + 1) cs
    else if c = '[' ∧ (tagBody? cs).isSome then
      List.replicate (slashes + 1) '\\' ++ c :: escapeFrom 0 cs
    else c :: escapeFrom 0 cs

/-- Double a backslash that stands alone at the end. -/
def guardEnd (cs : List Char) : List Char :=
  match cs.reverse with
  | ['\\'] => cs ++ ['\\']
  | '\\' :: c :: _ => if c = '\\' then cs else cs ++ ['\\']
  | _ => cs

/-- A text with its tags made text. -/
def escape (s : String) : String :=
  String.ofList (guardEnd (escapeFrom 0 s.toList))

/-- The markup that shows a text. -/
def ofText (s : String) : Markup :=
  ⟨escape s⟩

instance : Append Markup :=
  ⟨fun a b ↦ ⟨a.source ++ b.source⟩⟩

/-- Markup in a style. -/
def styled (style : String) (m : Markup) : Markup :=
  ⟨"[" ++ style ++ "]" ++ m.source ++ "[/" ++ style ++ "]"⟩

/-! ### Pieces -/

/-- What markup consists of. -/
inductive Piece where
  /-- Characters between tags. -/
  | text (cs : List Char)
  /-- A tag with its body. -/
  | tag (body : List Char)
deriving DecidableEq

/-- Several backslashes. -/
def backslashes (n : Nat) : List Char :=
  List.replicate n '\\'

/-- The pieces of markup. The characters passed since the last tag are given in reverse, and apart
from them the number of backslashes passed just now. -/
def piecesFrom (passed : List Char) (slashes : Nat) (cs : List Char) : List Piece :=
  match cs with
  | [] => [.text (passed.reverse ++ backslashes slashes)]
  | c :: cs =>
    if c = '\\' then piecesFrom passed (slashes + 1) cs
    else if c = '[' then
      match tagBody? cs with
      | none => piecesFrom (c :: backslashes (slashes - 1) ++ passed) 0 cs
      | some body =>
        let piece : Piece := if slashes % 2 = 0 then .tag body else .text ('[' :: body ++ [']'])
        .text passed.reverse :: .text (backslashes (slashes / 2)) :: piece ::
          piecesFrom [] 0 (cs.drop (body.length + 1))
    else piecesFrom (c :: backslashes slashes ++ passed) 0 cs
termination_by cs.length
decreasing_by all_goals (simp only [List.length_cons, List.length_drop]; omega)

/-! ### Reading -/

/-- Why markup cannot be shown. -/
inductive Fault where
  /-- A closing tag has no open tag of its style. -/
  | unmatched (name : String)
  /-- A closing tag without name has no open tag. -/
  | nothingOpen
  /-- The parameters of an event are no literal. -/
  | parameters (cs : List Char)
  /-- A component of a colour is no number. -/
  | color
  /-- A line has too few graphemes to be cut to its width. -/
  | uncut
deriving DecidableEq

/-- A tag that has been opened. -/
structure OpenTag where
  /-- The name of its style. -/
  name : String
  /-- Its parameters, if it has an equals sign. -/
  parameters : Option (List Char)
  /-- The number of characters shown before it. -/
  start : Nat
deriving DecidableEq

/-- Characters that are shown in a style. -/
structure Span where
  /-- The number of characters before them. -/
  start : Nat
  /-- The number of characters before them and among them. -/
  stop : Nat
  /-- The words of the style. -/
  style : List Char
deriving DecidableEq

namespace OpenTag

/-- Whether a tag sets an event. -/
def isEvent (t : OpenTag) : Bool :=
  t.name.toList.head? == some '@'

/-- The characters that are shown in the style of a tag, if it ends behind the given number of
characters. -/
def span (t : OpenTag) (stop : Nat) : Span :=
  let behind :=
    match t.parameters with
    | some cs => ' ' :: cs
    | none => []
  ⟨t.start, stop, t.name.toList ++ behind⟩

end OpenTag

/-- The literal that the parameters of an event have to be: their arguments, if there are such
behind a name or alone, no arguments if there is just a name, else all of it. -/
def argumentsOf (parameters : List Char) : List Char :=
  let cs := Text.trim Text.isBlank parameters
  let behind := cs.dropWhile fun c ↦ Text.isWordChar c || c == '.'
  if behind.isEmpty then ['(', ')']
  else if behind.head? = some '(' ∧ behind.getLast? = some ')' ∧ '\n' ∉ behind then behind
  else cs

/-- What has been read of markup. -/
structure Progress where
  /-- The characters shown so far. -/
  text : List Char := []
  /-- The open tags, the last opened first. -/
  opened : List OpenTag := []
  /-- The characters whose style is settled. -/
  spans : List Span := []
deriving DecidableEq

namespace Progress

/-- Close a tag, given the tags that stay open. -/
def finish (r : Progress) (tag : OpenTag) (opened : List OpenTag) : Except Fault Progress :=
  if tag.isEvent then
    match tag.parameters with
    | none | some [] => .ok { r with opened }
    | some cs =>
      if Literal.isWellFormed (argumentsOf cs) then .ok { r with opened }
      else .error (.parameters cs)
  else .ok { r with opened, spans := tag.span r.text.length :: r.spans }

/-- Close the last open tag of the style that a text means. -/
def closeNamed (r : Progress) (style : List Char) : Except Fault Progress :=
  match Style.nameOf style with
  | .error _ => .error .color
  | .ok name =>
    match r.opened.find? (·.name == name) with
    | none => .error (.unmatched name)
    | some tag => r.finish tag (r.opened.eraseP (·.name == name))

/-- Go past a tag. -/
def passTag (r : Progress) (name : List Char) (parameters : Option (List Char)) :
    Except Fault Progress :=
  match name with
  | '/' :: name =>
    let style := Text.trim Text.isBlank name
    match style, r.opened with
    | [], [] => .error .nothingOpen
    | [], tag :: opened => r.finish tag opened
    | style, _ => r.closeNamed style
  | style =>
    match Style.nameOf style with
    | .error _ => .error .color
    | .ok name => .ok { r with opened := ⟨name, parameters, r.text.length⟩ :: r.opened }

/-- Go past a piece of markup. -/
def pass (r : Progress) : Piece → Except Fault Progress
  | .text cs => .ok { r with text := r.text ++ shownText cs }
  | .tag body =>
    let parameters :=
      match body.dropWhile (· ≠ '=') with
      | _ :: cs => some cs
      | [] => none
    r.passTag (body.takeWhile (· ≠ '=')) parameters

/-- The characters that are shown in a style once all has been read; tags that are still open end
there. -/
def allSpans (r : Progress) : List Span :=
  r.opened.map (·.span r.text.length) ++ r.spans

end Progress

/-- The characters that markup shows, and those of them that are shown in a style. -/
def read (m : Markup) : Except Fault (List Char × List Span) :=
  ((piecesFrom [] 0 m.source.toList).foldlM Progress.pass {}).map fun r ↦ (r.text, r.allSpans)

/-- The text that markup shows. -/
def plain (m : Markup) : Except Fault String :=
  m.read.map fun r ↦ String.ofList r.1

end Markup

end ChannelGraph
