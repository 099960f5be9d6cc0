import ChannelGraph.Text.Blank

/-!
# Tokens of written types

A written type is a sequence of identifiers, numbers, quoted strings and marks, with white
space between them where the writer likes. `Token.ofText` splits a text into its tokens or
names the character at which no token starts.

Each token class is scanned by one function on the characters ahead, which returns the
characters of the token and those behind it. A quoted string ends at its first closing
quote; in double quotes a backslash protects the next character, which may not be a line
break. Three dots are one mark, and so is an arrow.
-/

namespace ChannelGraph

/-- The marks of the type notation. -/
inductive Mark where
  | arrow
  | ellipsis
  | dollar
  | star
  | openBracket
  | closeBracket
  | openBrace
  | closeBrace
  | openParen
  | closeParen
  | dot
  | comma
  | semicolon
deriving DecidableEq

namespace Mark

/-- How a mark is written. -/
def text : Mark → String
  | arrow => "<-"
  | ellipsis => "..."
  | dollar => "$"
  | star => "*"
  | openBracket => "["
  | closeBracket => "]"
  | openBrace => "\x7b"
  | closeBrace => "\x7d"
  | openParen => "("
  | closeParen => ")"
  | dot => "."
  | comma => ","
  | semicolon => ";"

/-- The marks that end a type which stands in front of them. -/
def isCloser : Mark → Bool
  | closeParen | closeBracket | closeBrace | comma | semicolon => true
  | _ => false

/-- The mark at the start of a text, with the characters behind it. -/
def ofChars? : List Char → Option (Mark × List Char)
  | '<' :: '-' :: cs => some (arrow, cs)
  | '.' :: '.' :: '.' :: cs => some (ellipsis, cs)
  | '.' :: cs => some (dot, cs)
  | '$' :: cs => some (dollar, cs)
  | '*' :: cs => some (star, cs)
  | '[' :: cs => some (openBracket, cs)
  | ']' :: cs => some (closeBracket, cs)
  | '{' :: cs => some (openBrace, cs)
  | '}' :: cs => some (closeBrace, cs)
  | '(' :: cs => some (openParen, cs)
  | ')' :: cs => some (closeParen, cs)
  | ',' :: cs => some (comma, cs)
  | ';' :: cs => some (semicolon, cs)
  | _ => none

/-- A mark uses up its characters. -/
theorem length_lt_of_ofChars? {cs rest : List Char} {m : Mark}
    (h : ofChars? cs = some (m, rest)) : rest.length < cs.length := by
  unfold ofChars? at h
  split at h <;> grind

end Mark

/-- A token of the type notation, with its text where the class does not determine it. -/
inductive Token where
  /-- An identifier or keyword. -/
  | ident (text : String)
  /-- A run of digits. -/
  | number (text : String)
  /-- A quoted string, its quotes included. -/
  | quoted (text : String)
  /-- A mark. -/
  | mark (m : Mark)
deriving DecidableEq

namespace Token

/-- How a token is written. -/
def text : Token → String
  | ident s | number s | quoted s => s
  | mark m => m.text

/-- Whether a token is an identifier or keyword. -/
def isIdent : Token → Bool
  | ident _ => true
  | _ => false

/-- Whether a token is a mark that ends a type in front of it. -/
def isCloser : Token → Bool
  | mark m => m.isCloser
  | _ => false

/-- The characters that start an identifier: the ASCII letters and the underscore. -/
def isIdentStart (c : Char) : Bool :=
  c.isAlpha || c == '_'

/-- The characters that continue an identifier: those that start one, and the digits. -/
def isIdentChar (c : Char) : Bool :=
  isIdentStart c || c.isDigit

/-- The rest of a string in double quotes, its closing quote included, and what follows. -/
def closeString : List Char → Option (List Char × List Char)
  | [] => none
  | '"' :: cs => some (['"'], cs)
  | '\\' :: c :: cs =>
    if c = '\n' then none
    else (closeString cs).map fun r ↦ ('\\' :: c :: r.1, r.2)
  | c :: cs => if c = '\\' then none else (closeString cs).map fun r ↦ (c :: r.1, r.2)

/-- The rest of a raw string, its closing backquote included, and what follows. -/
def closeRawString : List Char → Option (List Char × List Char)
  | [] => none
  | c :: cs => if c = '`' then some ([c], cs) else (closeRawString cs).map fun r ↦ (c :: r.1, r.2)

/-- A quoted text uses up at least its closing quote. -/
theorem length_lt_of_closeString {cs body rest : List Char}
    (h : closeString cs = some (body, rest)) : rest.length < cs.length := by
  fun_induction closeString cs generalizing body rest with
  | case1 => simp at h
  | case2 cs => simp_all
  | case3 => simp at h
  | case4 c cs _ ih =>
    obtain ⟨r, hr, he⟩ := Option.map_eq_some_iff.1 h
    cases he
    have := ih hr
    simp only [List.length_cons]
    omega
  | case5 => simp at h
  | case6 c cs _ _ _ ih =>
    obtain ⟨r, hr, he⟩ := Option.map_eq_some_iff.1 h
    cases he
    have := ih hr
    simp only [List.length_cons]
    omega

/-- A raw text uses up at least its closing quote. -/
theorem length_lt_of_closeRawString {cs body rest : List Char}
    (h : closeRawString cs = some (body, rest)) : rest.length < cs.length := by
  fun_induction closeRawString cs generalizing body rest with
  | case1 => simp at h
  | case2 cs => simp_all
  | case3 c cs _ ih =>
    obtain ⟨r, hr, he⟩ := Option.map_eq_some_iff.1 h
    cases he
    have := ih hr
    simp only [List.length_cons]
    omega

/-- The token at the start of a text, with the characters behind it. -/
def ofChars? : List Char → Option (Token × List Char)
  | [] => none
  | c :: cs =>
    if isIdentStart c then
      some (ident (String.ofList (c :: cs.takeWhile isIdentChar)), cs.dropWhile isIdentChar)
    else if c.isDigit then
      some (number (String.ofList (c :: cs.takeWhile Char.isDigit)), cs.dropWhile Char.isDigit)
    else if c = '"' then
      (closeString cs).map fun r ↦ (quoted (String.ofList (c :: r.1)), r.2)
    else if c = '`' then
      (closeRawString cs).map fun r ↦ (quoted (String.ofList (c :: r.1)), r.2)
    else
      (Mark.ofChars? (c :: cs)).map fun r ↦ (mark r.1, r.2)

/-- Every token has at least one character. -/
theorem length_lt_of_ofChars? {cs rest : List Char} {t : Token}
    (h : ofChars? cs = some (t, rest)) : rest.length < cs.length := by
  unfold ofChars? at h
  split at h
  · simp at h
  · rename_i c cs
    have hdrop (p : Char → Bool) : (cs.dropWhile p).length < (c :: cs).length := by
      have := (List.dropWhile_sublist p (l := cs)).length_le
      simp only [List.length_cons]
      omega
    split at h
    · cases h
      exact hdrop _
    split at h
    · cases h
      exact hdrop _
    split at h
    · obtain ⟨r, hr, he⟩ := Option.map_eq_some_iff.1 h
      cases he
      exact Nat.lt_succ_of_lt (length_lt_of_closeString hr)
    split at h
    · obtain ⟨r, hr, he⟩ := Option.map_eq_some_iff.1 h
      cases he
      exact Nat.lt_succ_of_lt (length_lt_of_closeRawString hr)
    · obtain ⟨r, hr, he⟩ := Option.map_eq_some_iff.1 h
      cases he
      exact Mark.length_lt_of_ofChars? hr

set_option linter.unusedVariables false in
/-- The tokens of a text, or the first character, white space apart, at which no token
starts. -/
def ofText (cs : List Char) : Except Char (List Token) :=
  match hc : Text.trimLeft Text.isBlank cs with
  | [] => .ok []
  | c :: rest =>
    match ht : ofChars? (c :: rest) with
    | none => .error c
    | some (t, behind) => (ofText behind).map (t :: ·)
termination_by cs.length
decreasing_by
  have h₁ := length_lt_of_ofChars? ht
  have h₂ : (Text.trimLeft Text.isBlank cs).length ≤ cs.length :=
    (List.dropWhile_sublist _).length_le
  rw [hc] at h₂
  omega

/-! ### Joining tokens -/

/-- Whether a space stands between two neighbouring tokens when they are written: not around
the inner side of brackets, not before closing marks, dots and braces, not between a name
and its parameter list, and not inside `<-chan`, `chan<-` and `map[`. A closing brace is set
off unless its braces are empty. -/
def needsSpace (before after : Token) : Bool :=
  if after = mark .closeBrace then before ≠ mark .openBrace
  else if before ∈ [mark .openParen, mark .openBracket, mark .closeBracket, mark .star, mark .dot,
      mark .ellipsis] then false
  else
    match after with
    | mark .dot | mark .openBrace => false
    | mark .openParen => !before.isIdent
    | mark m =>
      !m.isCloser && !(before = ident "chan" ∧ m = .arrow) &&
        !(before = ident "map" ∧ m = .openBracket)
    | ident s => !(before = mark .arrow ∧ s = "chan")
    | _ => true

/-- The text of tokens that follow a given token. -/
def joinAfter (before : Token) : List Token → String
  | [] => ""
  | t :: ts => (if needsSpace before t then " " else "") ++ t.text ++ joinAfter t ts

/-- The text of a sequence of tokens, spaced in the one customary way. -/
def join : List Token → String
  | [] => ""
  | t :: ts => t.text ++ joinAfter t ts

end Token

end ChannelGraph
