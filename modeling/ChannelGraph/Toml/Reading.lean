import ChannelGraph.Toml.Quoted
import ChannelGraph.Toml.Scalar

/-!
# Reading TOML

A document is a list of lines: headers of tables, headers of arrays of tables, and keys with
values; comments and empty lines may stand between. What a statement may add to the document
is decided by `Toml.under`, `Toml.declare`, `Toml.append` and `Toml.assign`. A text that is no
document is refused for the first thing in it that is out of order; nothing is said about
where that is.
-/

namespace ChannelGraph

namespace Toml

open Text (ReadAt)

/-! ### White space and comments -/

/-- The characters behind white space and comments, over several lines; whether a comment has
begun is given. A character that no comment may hold is left in front. -/
def skipFiller (inComment : Bool) : List Char → List Char
  | [] => []
  | c :: cs =>
    if c = '\n' then skipFiller false cs
    else if inComment then if isControl c then c :: cs else skipFiller true cs
    else if isBlank c then skipFiller false cs
    else if c = '#' then skipFiller true cs
    else c :: cs

/-- Skipping blanks, line ends and comments reads no further than the text goes. -/
theorem length_skipFiller_le (inComment : Bool) (cs : List Char) :
    (skipFiller inComment cs).length ≤ cs.length := by
  induction cs generalizing inComment with
  | nil => exact Nat.le_refl _
  | cons c cs ih =>
    simp only [skipFiller]
    repeat' split
    all_goals first
      | exact Nat.le_succ_of_le (ih _)
      | exact Nat.le_refl _

/-- Skipping white space, line breaks and comments leaves no more of a text. -/
theorem length_le_of_skipFiller {inComment : Bool} {cs rest : List Char}
    (h : skipFiller inComment cs = rest) : rest.length ≤ cs.length :=
  h ▸ length_skipFiller_le inComment cs

/-- The characters behind the end of a line, at which a comment may stand; whether it has begun
is given. -/
def lineEnd? (inComment : Bool) : List Char → Option (List Char)
  | [] => some []
  | c :: cs =>
    if c = '\n' then some cs
    else if inComment then if isControl c then none else lineEnd? true cs
    else if isBlank c then lineEnd? false cs
    else if c = '#' then lineEnd? true cs
    else none

/-- The end of a line uses up a character, unless there is none. -/
theorem length_le_of_lineEnd? {inComment : Bool} {cs rest : List Char}
    (h : lineEnd? inComment cs = some rest) : rest.length ≤ cs.length - 1 := by
  induction cs generalizing inComment with
  | nil =>
    cases h
    exact Nat.le_refl _
  | cons c cs ih =>
    simp only [lineEnd?] at h
    simp only [List.length_cons, Nat.add_sub_cancel]
    repeat' split at h
    all_goals first
      | exact Nat.le_trans (ih h) (Nat.sub_le _ _)
      | (cases h; exact Nat.le_refl _)
      | cases h

/-- The characters behind white space within a line. -/
def skipBlank (cs : List Char) : List Char :=
  cs.dropWhile isBlank

/-- Skipping blanks leaves no more of a text. -/
theorem length_skipBlank_le (cs : List Char) : (skipBlank cs).length ≤ cs.length :=
  (List.dropWhile_sublist _).length_le

/-- What is left behind blanks is no longer than before. -/
theorem length_le_of_skipBlank {cs rest : List Char} (h : skipBlank cs = rest) :
    rest.length ≤ cs.length :=
  h ▸ length_skipBlank_le cs

/-! ### Keys -/

/-- The characters of keys without quotes. -/
def isKeyChar (c : Char) : Bool :=
  c.isAlphanum || c == '-' || c == '_'

/-- The key at the front. -/
def key? (cs : List Char) : Option (String × List Char) :=
  match cs.takeWhile isKeyChar with
  | [] => (line? cs).map fun r ↦ (String.ofList r.1, r.2)
  | key => some (String.ofList key, cs.dropWhile isKeyChar)

/-- The keys at the front, with points between them, and white space behind them. -/
def keysAt (cs : List Char) : ReadAt (List String) cs :=
  match ReadAt.ofOption cs (key? cs) with
  | none => none
  | some ⟨(key, behind), h⟩ =>
    match hs : skipBlank behind with
    | '.' :: more =>
      have hm : (skipBlank more).length < cs.length :=
        Nat.lt_of_le_of_lt (length_skipBlank_le more)
          (Nat.lt_trans (length_le_of_skipBlank hs) h)
      match keysAt (skipBlank more) with
      | none => none
      | some ⟨(keys, rest), h'⟩ => some ⟨(key :: keys, rest), Nat.lt_trans h' hm⟩
    | rest => some ⟨([key], rest), Nat.lt_of_le_of_lt (length_le_of_skipBlank hs) h⟩
termination_by cs.length
decreasing_by exact hm

/-- The keys in front of an equals sign, and what follows it without white space. -/
def assignedAt (cs : List Char) : ReadAt (List String) cs :=
  match keysAt cs with
  | some ⟨(keys, '=' :: behind), h⟩ =>
    some ⟨(keys, skipBlank behind),
      Nat.lt_of_le_of_lt (length_skipBlank_le behind) (Nat.lt_of_succ_lt h)⟩
  | _ => none

/-! ### Values -/

/-- What a reader gives that may refuse the text: a value and the characters behind it, which
are fewer. -/
abbrev TakenAt (α : Type) (cs : List Char) :=
  Except Refusal { r : α × List Char // r.2.length < cs.length }

/-- Take over a result if it used up characters. -/
def takenOf {α : Type} (cs : List Char) (r : Except Refusal (α × List Char)) : TakenAt α cs :=
  match r with
  | .error f => .error f
  | .ok r => if h : r.2.length < cs.length then .ok ⟨r, h⟩ else .error .malformed

mutual

/-- The value at the front. -/
def valueAt (cs : List Char) : TakenAt Toml cs :=
  match cs with
  | '[' :: behind =>
    match hs : skipFiller false behind with
    | ']' :: rest => .ok ⟨(array false [], rest), Nat.lt_succ_of_lt (length_le_of_skipFiller hs)⟩
    | ahead =>
      have hle := length_le_of_skipFiller hs
      match itemsAt ahead with
      | .error f => .error f
      | .ok ⟨(items, rest), h⟩ =>
        .ok ⟨(array false items, rest), Nat.lt_succ_of_lt (Nat.lt_of_lt_of_le h hle)⟩
  | '\x7b' :: behind =>
    match hs : skipBlank behind with
    | '\x7d' :: rest =>
      .ok ⟨(table .closed [], rest), Nat.lt_succ_of_lt (length_le_of_skipBlank hs)⟩
    | ahead =>
      have hle := length_le_of_skipBlank hs
      match membersAt [] ahead with
      | .error f => .error f
      | .ok ⟨(entries, rest), h⟩ =>
        .ok ⟨(table .closed entries, rest), Nat.lt_succ_of_lt (Nat.lt_of_lt_of_le h hle)⟩
  | cs =>
    match string? cs with
    | some (s, rest) => takenOf cs (.ok (string (String.ofList s), rest))
    | none => takenOf cs (bareValue cs)
termination_by (cs.length, 0)
decreasing_by
  · left
    exact Nat.lt_succ_of_le hle
  · left
    exact Nat.lt_succ_of_le hle

/-- The items of an array from its first item on, up to the closing bracket. -/
def itemsAt (cs : List Char) : TakenAt (List Toml) cs :=
  match valueAt cs with
  | .error f => .error f
  | .ok ⟨(v, behind), h⟩ =>
    match hs : skipFiller false behind with
    | ']' :: rest => .ok ⟨([v], rest), Nat.lt_trans (length_le_of_skipFiller hs) h⟩
    | ',' :: more =>
      have hm : more.length < cs.length := Nat.lt_trans (length_le_of_skipFiller hs) h
      match hs' : skipFiller false more with
      | ']' :: rest => .ok ⟨([v], rest), Nat.lt_trans (length_le_of_skipFiller hs') hm⟩
      | ahead =>
        have ha : ahead.length < cs.length :=
          Nat.lt_of_le_of_lt (length_le_of_skipFiller hs') hm
        match itemsAt ahead with
        | .error f => .error f
        | .ok ⟨(vs, rest), h'⟩ => .ok ⟨(v :: vs, rest), Nat.lt_trans h' ha⟩
    | _ => .error .malformed
termination_by (cs.length, 1)
decreasing_by
  · right
    decide
  · left
    exact ha

/-- The members of a table that is written as a value, behind some that have been read, from a
key on and up to the closing brace. -/
def membersAt (entries : Entries) (cs : List Char) : TakenAt Entries cs :=
  match assignedAt cs with
  | none => .error .malformed
  | some ⟨(keys, ahead), hk⟩ =>
    match valueAt ahead with
    | .error f => .error f
    | .ok ⟨(v, behind), h⟩ =>
      match assign 0 v keys entries with
      | none => .error .malformed
      | some entries =>
        have hb : behind.length < cs.length := Nat.lt_trans h hk
        match hs : skipBlank behind with
        | '\x7d' :: rest =>
          .ok ⟨(entries, rest), Nat.lt_trans (length_le_of_skipBlank hs) hb⟩
        | ',' :: more =>
          have hm : (skipBlank more).length < cs.length :=
            Nat.lt_of_le_of_lt (length_skipBlank_le more)
              (Nat.lt_trans (length_le_of_skipBlank hs) hb)
          match membersAt entries (skipBlank more) with
          | .error f => .error f
          | .ok ⟨(entries, rest), h'⟩ => .ok ⟨(entries, rest), Nat.lt_trans h' hm⟩
        | _ => .error .malformed
termination_by (cs.length, 1)
decreasing_by
  · left
    exact hk
  · left
    exact hm

end

/-! ### Documents -/

/-- A document that has been read up to some line. -/
structure Draft where
  /-- The entries of the document. -/
  entries : Entries := []
  /-- The header of the current section, none in front of the first. -/
  header : List String := []
  /-- How many headers there were. -/
  part : Nat := 0

namespace Draft

/-- Start a section. -/
def startSection (d : Draft) (change : String → Entries → Option Entries)
    (header : List String) : Except Refusal Draft :=
  match atLast change header d.entries with
  | none => .error .malformed
  | some es => .ok ⟨es, header, d.part + 1⟩

/-- Give keys a value in the current section. -/
def set (d : Draft) (keys : List String) (v : Toml) : Except Refusal Draft :=
  match under (assign d.part v keys) d.header d.entries with
  | none => .error .malformed
  | some es => .ok { d with entries := es }

end Draft

/-- The statement at the front: a header, a key with a value, or nothing where a comment or the
end of the line is ahead. -/
def statement (d : Draft) (cs : List Char) :
    Except Refusal { r : Draft × List Char // r.2.length ≤ cs.length } :=
  match cs with
  | '[' :: '[' :: ahead =>
    match keysAt (skipBlank ahead) with
    | some ⟨(header, ']' :: ']' :: rest), h⟩ =>
      have hr : rest.length < ahead.length :=
        Nat.lt_of_succ_lt (Nat.lt_of_succ_lt (Nat.lt_of_lt_of_le h (length_skipBlank_le ahead)))
      (d.startSection append header).map fun d ↦
        ⟨(d, rest), Nat.le_of_lt (Nat.lt_succ_of_lt (Nat.lt_succ_of_lt hr))⟩
    | _ => .error .malformed
  | '[' :: ahead =>
    match keysAt (skipBlank ahead) with
    | some ⟨(header, ']' :: rest), h⟩ =>
      have hr : rest.length < ahead.length :=
        Nat.lt_of_succ_lt (Nat.lt_of_lt_of_le h (length_skipBlank_le ahead))
      (d.startSection declare header).map fun d ↦
        ⟨(d, rest), Nat.le_of_lt (Nat.lt_succ_of_lt hr)⟩
    | _ => .error .malformed
  | cs =>
    if cs.head? = some '#' ∨ cs.head? = some '\n' then .ok ⟨(d, cs), Nat.le_refl _⟩
    else
      match assignedAt cs with
      | none => .error .malformed
      | some ⟨(keys, ahead), h⟩ =>
        match valueAt ahead with
        | .error f => .error f
        | .ok ⟨(v, rest), h'⟩ =>
          (d.set keys v).map fun d ↦ ⟨(d, rest), Nat.le_of_lt (Nat.lt_trans h' h)⟩

set_option linter.unusedVariables false in
/-- Read the lines ahead into a document. -/
def readLines (d : Draft) (cs : List Char) : Except Refusal Draft :=
  match hs : skipBlank cs with
  | [] => .ok d
  | c :: ahead =>
    match statement d (c :: ahead) with
    | .error f => .error f
    | .ok ⟨(d, rest), h⟩ =>
      match he : lineEnd? false rest with
      | none => .error .malformed
      | some next => readLines d next
termination_by cs.length
decreasing_by
  exact Nat.lt_of_le_of_lt (length_le_of_lineEnd? he)
    (Nat.lt_of_le_of_lt (Nat.sub_le_sub_right h 1) (length_le_of_skipBlank hs))

/-- Every line end that is written as two characters as one. -/
def joinLineEnds : List Char → List Char
  | '\r' :: '\n' :: cs => '\n' :: joinLineEnds cs
  | c :: cs => c :: joinLineEnds cs
  | [] => []

/-- The entries of the document with a text. -/
def ofText (text : String) : Except Refusal Entries :=
  (readLines {} (joinLineEnds text.toList)).map Draft.entries

end Toml

end ChannelGraph
