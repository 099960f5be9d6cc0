import ChannelGraph.Proofs.TypeExpr.Tokens

/-!
# Tokens in any spacing

Which tokens there are is said without the reader: `Token.IsToken` gives their characters class by
class. Such a token is read from its text alone, and so in front of anything that does not continue
it (`IsToken.solid`); white space continues no token, also none in which it may occur. Hence a
sequence of tokens can be read back whatever the white space around them and between them is, by
induction on the tokens (`Token.ofText_spaced`).
-/

namespace ChannelGraph

namespace Token

variable {t : Token} {ts : List Token} {c : Char} {cs gap front rest : List Char}

/-! ### The tokens there are -/

/-- What may stand between double quotes: characters that are neither quotes nor backslashes, and
backslashes with the character that they protect, which is not a line feed. -/
inductive StringBody : List Char → Prop
  /-- Nothing. -/
  | nil : StringBody []
  /-- A character that means itself. -/
  | plain {c : Char} {cs : List Char} (hquote : c ≠ '"') (hslash : c ≠ '\\') (h : StringBody cs) :
    StringBody (c :: cs)
  /-- A protected character. -/
  | escaped {c : Char} {cs : List Char} (hc : c ≠ '\n') (h : StringBody cs) :
    StringBody ('\\' :: c :: cs)

/-- The tokens of the type notation, by their characters. -/
inductive IsToken : Token → Prop
  /-- A letter or an underscore, and behind it letters, digits and underscores. -/
  | ident (c : Char) (cs : List Char) (hc : isIdentStart c) (hcs : ∀ x ∈ cs, isIdentChar x) :
    IsToken (ident (String.ofList (c :: cs)))
  /-- One digit or more. -/
  | number (c : Char) (cs : List Char) (hc : c.isDigit) (hcs : ∀ x ∈ cs, x.isDigit) :
    IsToken (number (String.ofList (c :: cs)))
  /-- A string in double quotes. -/
  | string {cs : List Char} (h : StringBody cs) :
    IsToken (quoted (String.ofList ('"' :: (cs ++ ['"']))))
  /-- Characters between backquotes. -/
  | rawString (cs : List Char) (h : '`' ∉ cs) :
    IsToken (quoted (String.ofList ('`' :: (cs ++ ['`']))))
  /-- A mark. -/
  | mark (m : Mark) : IsToken (mark m)

/-- The body of a quoted text ends at the first quote behind it. -/
theorem StringBody.closeString (h : StringBody cs) :
    closeString (cs ++ ['"']) = some (cs ++ ['"'], []) := by
  induction h with
  | nil => rfl
  | plain hquote hslash _ ih => simp [Token.closeString, hslash, ih]
  | escaped hc _ ih => simp [Token.closeString, hc, ih]

/-- A raw text ends at the first quote of its own kind behind it. -/
theorem closeRawString_of_not_mem (h : '`' ∉ cs) :
    closeRawString (cs ++ ['`']) = some (cs ++ ['`'], []) := by
  induction cs with
  | nil => rfl
  | cons c cs ih =>
    obtain ⟨hc, hcs⟩ := not_or.1 (List.mem_cons.not.1 h)
    rw [List.cons_append, closeRawString, if_neg (Ne.symm hc), ih hcs]
    rfl

/-- Digits and letters are told apart by their first character. -/
theorem not_isIdentStart_of_isDigit (h : c.isDigit) : ¬isIdentStart c := by
  intro hstart
  have hdigit := toNat_of_isDigit h
  have hletter := toNat_of_isIdentStart hstart
  omega

/-- A token is read from its text, and nothing is left. -/
theorem IsToken.ofChars? (h : IsToken t) : ofChars? t.text.toList = some (t, []) := by
  cases h with
  | ident c cs hc hcs =>
    rw [text, String.toList_ofList, Token.ofChars?, if_pos hc, List.takeWhile_eq_self_iff.2 hcs,
      List.dropWhile_eq_nil_iff.2 hcs]
  | number c cs hc hcs =>
    rw [text, String.toList_ofList, Token.ofChars?, if_neg (not_isIdentStart_of_isDigit hc),
      if_pos hc, List.takeWhile_eq_self_iff.2 hcs, List.dropWhile_eq_nil_iff.2 hcs]
  | @string cs hbody =>
    rw [text, String.toList_ofList, Token.ofChars?, if_neg (by decide), if_neg (by decide),
      if_pos rfl, hbody.closeString]
    rfl
  | rawString cs hbody =>
    rw [text, String.toList_ofList, Token.ofChars?, if_neg (by decide), if_neg (by decide),
      if_neg (by decide), if_pos rfl, closeRawString_of_not_mem hbody]
    rfl
  | mark m => cases m <;> rfl

/-- A token is read in front of everything that does not continue it. -/
theorem IsToken.solid (h : IsToken t) : t.Solid :=
  solid_of_ofChars? h.ofChars?

/-! ### White space -/

/-- White space ends a name. -/
theorem isIdentChar_of_isBlank (h : Text.isBlank c) : isIdentChar c = false := by
  rw [Bool.eq_false_iff]
  intro hchar
  have hblank := toNat_of_isBlank h
  rcases Bool.or_eq_true_iff.1 hchar with hstart | hdigit
  · have := toNat_of_isIdentStart hstart
    omega
  · have := toNat_of_isDigit hdigit
    omega

/-- White space continues no token. -/
theorem endsBefore_of_isBlank (t : Token) (h : Text.isBlank c) (rest : List Char) :
    t.EndsBefore (c :: rest) := by
  have hchar := isIdentChar_of_isBlank h
  cases t with
  | ident s => exact fun x hx ↦ Option.some.inj hx ▸ hchar
  | number s => exact fun x hx ↦ Option.some.inj hx ▸ (Bool.or_eq_false_iff.1 hchar).2
  | quoted s => exact trivial
  | mark m =>
    rintro - ⟨behind, hbehind⟩
    obtain rfl : '.' = c := (List.cons.inj hbehind).1
    exact absurd h (by decide)

/-- White space in front of tokens is skipped, however much there is. -/
theorem ofText_append_of_forall_isBlank (h : ∀ x ∈ gap, Text.isBlank x) (cs : List Char) :
    ofText (gap ++ cs) = ofText cs := by
  induction gap with
  | nil => rfl
  | cons c gap ih =>
    obtain ⟨hc, hgap⟩ := List.forall_mem_cons.1 h
    rw [List.cons_append, ofText_of_isBlank hc, ih hgap]

/-! ### Tokens and white space -/

/-- Tokens with white space behind each of them; only behind the last one it may be missing. -/
inductive Spaced : List Token → List Char → Prop
  /-- No token. -/
  | nil : Spaced [] []
  /-- A token, white space and more tokens. -/
  | cons {t : Token} {ts : List Token} {cs : List Char} (gap : List Char) (ht : IsToken t)
    (hgap : ∀ x ∈ gap, Text.isBlank x) (hsep : ts ≠ [] → gap ≠ []) (h : Spaced ts cs) :
    Spaced (t :: ts) (t.text.toList ++ (gap ++ cs))

/-- Tokens with white space between them are read as these tokens. -/
theorem Spaced.ofText (h : Spaced ts cs) : ofText cs = .ok ts := by
  induction h with
  | nil => exact ofText_nil
  | @cons t ts cs gap ht hgap hsep h ih =>
    have hends : t.EndsBefore (gap ++ cs) := by
      cases gap with
      | cons c gap => exact t.endsBefore_of_isBlank (hgap c List.mem_cons_self) _
      | nil =>
        cases h with
        | nil => exact t.endsBefore_nil
        | cons => exact absurd rfl (hsep (List.cons_ne_nil _ _))
    rw [ofText_append ht.solid hends, ofText_append_of_forall_isBlank hgap, ih]
    rfl

/-- Tokens are read back from every text in which they stand with white space between them, and with
or without white space around them, of any kind and length: exactly these tokens, in their order. -/
theorem ofText_spaced (hfront : ∀ x ∈ front, Text.isBlank x) (h : Spaced ts cs) :
    ofText (front ++ cs) = .ok ts := by
  rw [ofText_append_of_forall_isBlank hfront, h.ofText]

/-- A string with a protected quote, spaces and dots in it, three dots in front of one, and a raw
string with a line feed in it, behind spaces of several kinds. -/
theorem ofText_spaced_strings :
    ∃ front cs, (∀ x ∈ front, Text.isBlank x) ∧
      Spaced [ident "_a1", quoted "\"b \\\" ...\"", mark .ellipsis, mark .dot,
        quoted "`\n\"`", number "007"] cs ∧
      front ++ cs = "\u3000 _a1\t\"b \\\" ...\"\u2028... .\r\n`\n\"`  007\x1c".toList ∧
      ofText (front ++ cs) = .ok [ident "_a1", quoted "\"b \\\" ...\"", mark .ellipsis, mark .dot,
        quoted "`\n\"`", number "007"] := by
  have hfront : ∀ x ∈ ['\u3000', ' '], Text.isBlank x := by simp [Text.isBlank, Text.isWhite]
  have hstring : StringBody ['b', ' ', '\\', '"', ' ', '.', '.', '.'] :=
    .plain (by simp) (by simp) <| .plain (by simp) (by simp) <| .escaped (by simp) <|
      .plain (by simp) (by simp) <| .plain (by simp) (by simp) <| .plain (by simp) (by simp) <|
        .plain (by simp) (by simp) .nil
  have hspaced : Spaced [ident "_a1", quoted "\"b \\\" ...\"", mark .ellipsis, mark .dot,
      quoted "`\n\"`", number "007"] _ :=
    .cons ['\t'] (.ident '_' ['a', '1'] rfl (by simp [isIdentChar, isIdentStart]))
      (by simp [Text.isBlank, Text.isWhite]) (by simp) <|
    .cons ['\u2028'] (.string hstring) (by simp [Text.isBlank, Text.isWhite]) (by simp) <|
    .cons [' '] (.mark .ellipsis) (by simp [Text.isBlank, Text.isWhite]) (by simp) <|
    .cons ['\r', '\n'] (.mark .dot) (by simp [Text.isBlank, Text.isWhite]) (by simp) <|
    .cons [' ', ' '] (.rawString ['\n', '"'] (by simp)) (by simp [Text.isBlank, Text.isWhite])
      (by simp) <|
    .cons ['\x1c'] (.number '0' ['0', '7'] rfl (by simp)) (by simp [Text.isBlank, Text.isWhite])
      (by simp) .nil
  exact ⟨_, _, hfront, hspaced, by decide +kernel, ofText_spaced hfront hspaced⟩

end Token

end ChannelGraph
