/-!
# Readers that use up characters

A reader takes the characters ahead and returns what it read with the characters behind it.
That these are fewer is part of its result, so a reader that calls itself on them ends.
-/

namespace ChannelGraph.Text

/-- What a reader gives: a value and the characters behind it, which are fewer. -/
abbrev ReadAt (α : Type) (cs : List Char) :=
  Option { r : α × List Char // r.2.length < cs.length }

namespace ReadAt

variable {α : Type} {cs : List Char}

/-- Take over a result if it used up characters. -/
def ofOption (cs : List Char) (r : Option (α × List Char)) : ReadAt α cs :=
  match r with
  | none => none
  | some r => if h : r.2.length < cs.length then some ⟨r, h⟩ else none

/-- The result without the proof. -/
def toOption (r : ReadAt α cs) : Option (α × List Char) :=
  r.map Subtype.val

/-- A result that used up characters is taken over as it is. -/
theorem ofOption_eq_some {a : α} {rest : List Char} (h : rest.length < cs.length) :
    ofOption cs (some (a, rest)) = some ⟨(a, rest), h⟩ := by
  simp [ofOption, h]

end ReadAt

end ChannelGraph.Text
