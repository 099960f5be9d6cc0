import ChannelGraph.Text.Quoted
import ChannelGraph.TypeExpr.Basic
import ChannelGraph.TypeExpr.Token

/-!
# Reading a written type

The notation follows Go. With `T` for a type and juxtaposition for sequence:

* `$x` is a parameter, `x` and `x.y` are named types;
* `*T`, `[]T`, `[N]T`, `chan T`, `chan<- T`, `<-chan T` and `map[T]T` are compound types;
* `func(…)` with an optional result, `interface{…}` and `struct{…}` are opaque: they are read
  as named types whose name is their tokens joined in the customary spacing. What stands
  between their brackets is only checked for balance, and no parameter may occur in them.

Every parameter gets the scope given by the reader. A text that is no type is refused with the
reason at the first token that does not fit (`TypeExpr.Refusal`).

The reader of one type (`TypeExpr.ofTokens`) returns the tokens behind the type together with
the fact that they are fewer, which is what its recursion rests on.
-/

namespace ChannelGraph

namespace TypeExpr

/-- Why a text is not a type. -/
inductive Refusal where
  /-- The text has no token. -/
  | empty
  /-- No token starts at a character. -/
  | unexpectedChar (c : Char)
  /-- The text ends inside a type. -/
  | endOfText
  /-- A certain token has to stand where another one does. -/
  | expected (want got : Token)
  /-- An identifier has to stand where another token does. -/
  | expectedIdent (got : Token)
  /-- A number or a closing bracket has to stand where another token does. -/
  | expectedLength (got : Token)
  /-- No type starts with a token. -/
  | unexpected (got : Token)
  /-- A token follows the type. -/
  | trailing (got : Token)
  /-- A parameter occurs in an opaque type. -/
  | paramInOpaque
deriving DecidableEq

namespace Refusal

/-- The wording of a reason. -/
def message : Refusal → String
  | empty => "empty type"
  | unexpectedChar c => s!"unexpected character {Text.quoted (String.singleton c)}"
  | endOfText => "unexpected end of input"
  | expected want got => s!"expected {Text.quoted want.text}, got {Text.quoted got.text}"
  | expectedIdent got => s!"expected identifier, got {Text.quoted got.text}"
  | expectedLength got => s!"expected array length, got {Text.quoted got.text}"
  | unexpected got => s!"unexpected {Text.quoted got.text}"
  | trailing got => s!"unexpected trailing {Text.quoted got.text}"
  | paramInOpaque =>
    "type parameters are not allowed inside func, struct or interface types"

end Refusal

/-- The tokens behind a bracketed group whose opening bracket was just passed; `depth` more
groups of the same brackets are open inside it. -/
def behindGroup (opener closer : Mark) (depth : Nat) : List Token → Option (List Token)
  | [] => none
  | t :: ts =>
    if t = .mark opener then behindGroup opener closer (depth + 1) ts
    else if t = .mark closer then
      match depth with
      | 0 => some ts
      | depth + 1 => behindGroup opener closer depth ts
    else behindGroup opener closer depth ts

/-- A group uses up at least its closing mark. -/
theorem length_lt_of_behindGroup {opener closer : Mark} {depth : Nat} {ts rest : List Token}
    (h : behindGroup opener closer depth ts = some rest) : rest.length < ts.length := by
  induction ts generalizing depth with
  | nil => simp [behindGroup] at h
  | cons t ts ih =>
    simp only [behindGroup] at h
    split at h
    · exact Nat.lt_succ_of_lt (ih h)
    split at h
    · cases depth with
      | zero => cases h; simp
      | succ depth => exact Nat.lt_succ_of_lt (ih h)
    · exact Nat.lt_succ_of_lt (ih h)

/-- What reading something at the front of a sequence of tokens gives: a value and the tokens
behind it, which are fewer, or the reason why there is none. -/
abbrev ReadAt (α : Type) (ts : List Token) :=
  Except Refusal { r : α × List Token // r.2.length < ts.length }

/-- Read a group that starts with its opening bracket. -/
def groupAt (opener closer : Mark) : (ts : List Token) → ReadAt Unit ts
  | [] => .error .endOfText
  | t :: ts =>
    if t = .mark opener then
      match h : behindGroup opener closer 0 ts with
      | none => .error .endOfText
      | some rest => .ok ⟨((), rest), Nat.lt_succ_of_lt (length_lt_of_behindGroup h)⟩
    else .error (.expected (.mark opener) t)

/-- The opaque type that stands at the front of some tokens, up to the tokens behind it. -/
def opaqueAt (first : Token) {behind rest : List Token} (h : rest.length < behind.length) :
    ReadAt TypeExpr (first :: behind) :=
  let used := (first :: behind).take (behind.length + 1 - rest.length)
  if Token.mark .dollar ∈ used then .error .paramInOpaque
  else .ok ⟨(name (Token.join used), rest), Nat.lt_succ_of_lt h⟩

/-- Put a constructor of one argument around the type read behind it. -/
def wrapAt (head : String) {ts behind : List Token} (h : behind.length < ts.length) :
    ReadAt TypeExpr behind → ReadAt TypeExpr ts
  | .error e => .error e
  | .ok ⟨(elem, rest), hr⟩ => .ok ⟨(compound head [elem], rest), Nat.lt_trans hr h⟩

/-- What stands behind two elements of a list is shorter than the list. -/
theorem length_lt_cons_cons {α : Type} (a b : α) (l : List α) :
    l.length < (a :: b :: l).length :=
  Nat.lt_succ_of_lt (Nat.lt_succ_self _)

/-- A named type at the front: an identifier, or two with a dot between them. -/
def nameAt (x : String) (behind : List Token) : ReadAt TypeExpr (.ident x :: behind) :=
  match behind with
  | .mark .dot :: .ident y :: rest =>
    .ok ⟨(name (x ++ "." ++ y), rest), Nat.lt_succ_of_lt (length_lt_cons_cons ..)⟩
  | .mark .dot :: t :: _ => .error (.expectedIdent t)
  | [.mark .dot] => .error .endOfText
  | rest => .ok ⟨(name x, rest), Nat.lt_succ_self _⟩

/-- Read one type, with parameters in the given scope, at the front of a sequence of tokens. -/
def ofTokens (scope : String) (ts : List Token) : ReadAt TypeExpr ts :=
  match ts with
  | [] => .error .endOfText
  | .mark .dollar :: .ident x :: rest => .ok ⟨(param ⟨scope, x⟩, rest), length_lt_cons_cons ..⟩
  | .mark .dollar :: t :: _ => .error (.expectedIdent t)
  | [.mark .dollar] => .error .endOfText
  | .mark .star :: behind => wrapAt "*" (Nat.lt_succ_self _) (ofTokens scope behind)
  | .mark .openBracket :: .mark .closeBracket :: behind =>
    wrapAt "[]" (length_lt_cons_cons ..) (ofTokens scope behind)
  | .mark .openBracket :: .number n :: .mark .closeBracket :: behind =>
    wrapAt ("[" ++ n ++ "]") (Nat.lt_succ_of_lt (length_lt_cons_cons ..)) (ofTokens scope behind)
  | .mark .openBracket :: .number _ :: t :: _ => .error (.expected (.mark .closeBracket) t)
  | [.mark .openBracket, .number _] => .error .endOfText
  | .mark .openBracket :: t :: _ => .error (.expectedLength t)
  | [.mark .openBracket] => .error .endOfText
  | .mark .arrow :: t :: behind =>
    if t = .ident "chan" then wrapAt "<-chan" (length_lt_cons_cons ..) (ofTokens scope behind)
    else .error (.expected (.ident "chan") t)
  | [.mark .arrow] => .error .endOfText
  | .ident x :: behind =>
    if x = "chan" then
      match behind with
      | .mark .arrow :: behind => wrapAt "chan<-" (length_lt_cons_cons ..) (ofTokens scope behind)
      | behind => wrapAt "chan" (Nat.lt_succ_self _) (ofTokens scope behind)
    else if x = "map" then
      match behind with
      | [] => .error .endOfText
      | .mark .openBracket :: behind =>
        match ofTokens scope behind with
        | .error e => .error e
        | .ok ⟨(_, []), _⟩ => .error .endOfText
        | .ok ⟨(key, .mark .closeBracket :: behind), h⟩ =>
          match ofTokens scope behind with
          | .error e => .error e
          | .ok ⟨(value, rest), h'⟩ =>
            have hv := Nat.lt_trans h' (Nat.lt_trans (Nat.lt_succ_self _) h)
            .ok ⟨(compound "map" [key, value], rest), Nat.lt_succ_of_lt (Nat.lt_succ_of_lt hv)⟩
        | .ok ⟨(_, t :: _), _⟩ => .error (.expected (.mark .closeBracket) t)
      | t :: _ => .error (.expected (.mark .openBracket) t)
    else if x = "func" then
      match groupAt .openParen .closeParen behind with
      | .error e => .error e
      | .ok ⟨(_, []), h⟩ => opaqueAt _ h
      | .ok ⟨(_, t :: behind), h⟩ =>
        if t = .mark .openParen then
          match groupAt .openParen .closeParen (t :: behind) with
          | .error e => .error e
          | .ok ⟨(_, rest), h'⟩ => opaqueAt _ (Nat.lt_trans h' h)
        else if t.isCloser then opaqueAt _ h
        else
          match ofTokens scope (t :: behind) with
          | .error e => .error e
          | .ok ⟨(_, rest), h'⟩ => opaqueAt _ (Nat.lt_trans h' h)
    else if x = "interface" ∨ x = "struct" then
      match groupAt .openBrace .closeBrace behind with
      | .error e => .error e
      | .ok ⟨(_, rest), h⟩ => opaqueAt _ h
    else nameAt x behind
  | t :: _ => .error (.unexpected t)
termination_by ts.length
decreasing_by all_goals (simp only [List.length_cons] at *; omega)

/-- The type that a text denotes, with parameters in the given scope. -/
def ofText (scope text : String) : Except Refusal TypeExpr :=
  match Token.ofText text.toList with
  | .error c => .error (.unexpectedChar c)
  | .ok [] => .error .empty
  | .ok ts =>
    match ofTokens scope ts with
    | .error e => .error e
    | .ok ⟨(e, []), _⟩ => .ok e
    | .ok ⟨(_, t :: _), _⟩ => .error (.trailing t)

/-- What is said about a text that is not a type. -/
def refusalMessage (text : String) (r : Refusal) : String :=
  s!"Invalid type {Text.quoted text}: {r.message}"

end TypeExpr

end ChannelGraph
