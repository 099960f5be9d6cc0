import ChannelGraph.Decimal.Numeral
import ChannelGraph.Json.Basic
import ChannelGraph.Text.Hex
import ChannelGraph.Text.ReadAt

/-!
# Reading JSON

The strict grammar of JSON texts, with the three words `NaN`, `Infinity` and `-Infinity` in
addition. Values may be nested to a given depth, where only arrays and objects count that are
not empty. Escapes for the halves of a surrogate pair have to come in pairs, and control
characters have to be escaped. A text either is a JSON text or is not; nothing is said about
where it fails.

Each reader takes the characters ahead and returns what it read with the characters behind
it, which are fewer; its recursion rests on that.
-/

namespace ChannelGraph

namespace Json

open Text (ReadAt)

/-- The white space of JSON. -/
def isSpace (c : Char) : Bool :=
  c == ' ' || c == '\n' || c == '\r' || c == '\t'

/-- The characters behind leading white space. -/
def skipSpace (cs : List Char) : List Char :=
  cs.dropWhile isSpace

/-- Skipping blanks reads no further than the text goes. -/
theorem length_skipSpace_le (cs : List Char) : (skipSpace cs).length ≤ cs.length :=
  (List.dropWhile_sublist _).length_le

/-! ### Numbers -/

/-- The digits of a fraction, if the characters ahead start with a point. -/
def fraction? : List Char → Option (List Char × List Char)
  | '.' :: cs =>
    let digits := cs.takeWhile Char.isDigit
    if digits.isEmpty then none else some (digits, cs.dropWhile Char.isDigit)
  | cs => some ([], cs)

/-- The digits of an exponent behind its mark, with their sign. -/
def signedExponent? (cs : List Char) : Option (Int × List Char) :=
  let (negative, ds) := Numeral.splitSign cs
  let digits := ds.takeWhile Char.isDigit
  if digits.isEmpty then none
  else some (Numeral.signed negative digits, ds.dropWhile Char.isDigit)

/-- The exponent of a number, if the characters ahead start with one. -/
def exponent? : List Char → Option (Option Int × List Char)
  | 'e' :: cs | 'E' :: cs => (signedExponent? cs).map fun r ↦ (some r.1, r.2)
  | cs => some (none, cs)

/-- The unsigned number at the front, given its sign: an integer if it has neither fraction nor
exponent. Leading zeros are refused, and so are too many digits in front of the fraction. -/
def number? (negative : Bool) (cs : List Char) : Option (Json × List Char) :=
  let whole := cs.takeWhile Char.isDigit
  match whole with
  | [] => none
  | d :: ds =>
    if d = '0' ∧ !ds.isEmpty then none
    else if Numeral.digitLimit < whole.length then none
    else
      match fraction? (cs.dropWhile Char.isDigit) with
      | none => none
      | some (fraction, behind) =>
        match exponent? behind with
        | none => none
        | some (exponent, rest) =>
          if fraction.isEmpty ∧ exponent.isNone then
            some (int (Numeral.signed negative whole), rest)
          else
            let digits := Numeral.value (whole ++ fraction)
            let place := exponent.getD 0 - fraction.length
            some (float (.ofDecimal negative digits place), rest)

/-! ### Strings -/

/-- The number of the four hexadecimal digits at the front. -/
def hexUnit? : List Char → Option (Nat × List Char)
  | a :: b :: c :: d :: cs => (Text.ofHexDigits? 0 [a, b, c, d]).map (·, cs)
  | _ => none

/-- The character of an escape behind the backslash. -/
def escape? : List Char → Option (Char × List Char)
  | '"' :: cs => some ('"', cs)
  | '\\' :: cs => some ('\\', cs)
  | '/' :: cs => some ('/', cs)
  | 'b' :: cs => some ('\x08', cs)
  | 'f' :: cs => some ('\x0c', cs)
  | 'n' :: cs => some ('\n', cs)
  | 'r' :: cs => some ('\r', cs)
  | 't' :: cs => some ('\t', cs)
  | 'u' :: cs =>
    match hexUnit? cs with
    | none => none
    | some (high, behind) =>
      if 0xD800 ≤ high ∧ high < 0xDC00 then
        match behind with
        | '\\' :: 'u' :: cs =>
          match hexUnit? cs with
          | some (low, rest) =>
            if 0xDC00 ≤ low ∧ low < 0xE000 then
              some (Char.ofNat (0x10000 + (high - 0xD800) * 0x400 + (low - 0xDC00)), rest)
            else none
          | none => none
        | _ => none
      else if 0xDC00 ≤ high ∧ high < 0xE000 then none
      else some (Char.ofNat high, behind)
  | _ => none

/-- Four digits are used up. -/
theorem length_of_hexUnit? {cs rest : List Char} {n : Nat} (h : hexUnit? cs = some (n, rest)) :
    rest.length + 4 = cs.length := by
  unfold hexUnit? at h
  split at h
  · obtain ⟨_, _, he⟩ := Option.map_eq_some_iff.1 h
    cases he
    rfl
  · simp at h

/-- An escape uses up at least one character, so that reading a string ends. -/
theorem length_lt_of_escape? {cs rest : List Char} {c : Char} (h : escape? cs = some (c, rest)) :
    rest.length < cs.length := by
  unfold escape? at h
  split at h
  case h_9 cs =>
    split at h
    · simp at h
    · rename_i high behind hu
      have h₁ := length_of_hexUnit? hu
      split at h
      · split at h
        · rename_i cs'
          split at h
          · rename_i low rest' hu'
            have h₂ := length_of_hexUnit? hu'
            split at h
            · simp only [Option.some.injEq, Prod.mk.injEq] at h
              obtain ⟨-, rfl⟩ := h
              simp only [List.length_cons] at *
              omega
            · simp at h
          · simp at h
        · simp at h
      · split at h
        · simp at h
        · simp only [Option.some.injEq, Prod.mk.injEq] at h
          obtain ⟨-, rfl⟩ := h
          simp only [List.length_cons]
          omega
  all_goals simp_all

/-- The characters of a string behind its opening quote, and what follows its closing quote. -/
def stringBody (cs : List Char) : ReadAt (List Char) cs :=
  match cs with
  | [] => none
  | '"' :: rest => some ⟨([], rest), Nat.lt_succ_self _⟩
  | '\\' :: behind =>
    match he : escape? behind with
    | none => none
    | some (c, behind') =>
      have hlt := length_lt_of_escape? he
      match stringBody behind' with
      | none => none
      | some ⟨(s, rest), h⟩ => some ⟨(c :: s, rest), by simp only [List.length_cons] at *; omega⟩
  | c :: behind =>
    if c.toNat < 0x20 then none
    else
      match stringBody behind with
      | none => none
      | some ⟨(s, rest), h⟩ => some ⟨(c :: s, rest), Nat.lt_succ_of_lt h⟩
termination_by cs.length
decreasing_by all_goals (simp only [List.length_cons] at *; omega)

/-! ### Values -/

/-- A word with a fixed value. -/
def word? : List Char → Option (Json × List Char)
  | 'n' :: 'u' :: 'l' :: 'l' :: cs => some (null, cs)
  | 't' :: 'r' :: 'u' :: 'e' :: cs => some (bool true, cs)
  | 'f' :: 'a' :: 'l' :: 's' :: 'e' :: cs => some (bool false, cs)
  | 'N' :: 'a' :: 'N' :: cs => some (float .nan, cs)
  | 'I' :: 'n' :: 'f' :: 'i' :: 'n' :: 'i' :: 't' :: 'y' :: cs => some (float (.infinity false), cs)
  | '-' :: 'I' :: 'n' :: 'f' :: 'i' :: 'n' :: 'i' :: 't' :: 'y' :: cs =>
    some (float (.infinity true), cs)
  | '-' :: cs => number? true cs
  | cs => number? false cs

/-- A word or number at the front. -/
def wordAt (cs : List Char) : ReadAt Json cs :=
  .ofOption cs (word? cs)

mutual

/-- Read a value at the front, with arrays and objects that are not empty nested to the given
depth. -/
def valueAt (depth : Nat) (cs : List Char) : ReadAt Json cs :=
  match cs with
  | '"' :: behind =>
    match stringBody behind with
    | none => none
    | some ⟨(s, rest), h⟩ => some ⟨(string (String.ofList s), rest), Nat.lt_succ_of_lt h⟩
  | '[' :: behind =>
    match hs : skipSpace behind with
    | ']' :: rest =>
      some ⟨(array [], rest), by
        have := length_skipSpace_le behind
        simp only [hs, List.length_cons] at *
        omega⟩
    | ahead =>
      match depth with
      | 0 => none
      | depth + 1 =>
        match itemsAt depth ahead with
        | none => none
        | some ⟨(items, rest), h⟩ =>
          some ⟨(array items, rest), by
            have := length_skipSpace_le behind
            simp only [hs, List.length_cons] at *
            omega⟩
  | '{' :: behind =>
    match hs : skipSpace behind with
    | '}' :: rest =>
      some ⟨(object [], rest), by
        have := length_skipSpace_le behind
        simp only [hs, List.length_cons] at *
        omega⟩
    | ahead =>
      match depth with
      | 0 => none
      | depth + 1 =>
        match entriesAt depth ahead with
        | none => none
        | some ⟨(entries, rest), h⟩ =>
          some ⟨(object entries, rest), by
            have := length_skipSpace_le behind
            simp only [hs, List.length_cons] at *
            omega⟩
  | cs => wordAt cs
termination_by (cs.length, 0)
decreasing_by
  · left
    have := length_skipSpace_le behind
    simp only [hs, List.length_cons] at *
    omega
  · left
    have := length_skipSpace_le behind
    simp only [hs, List.length_cons] at *
    omega

/-- Read the items of an array from its first item on, up to the closing bracket. -/
def itemsAt (depth : Nat) (cs : List Char) : ReadAt (List Json) cs :=
  match valueAt depth cs with
  | none => none
  | some ⟨(v, behind), h⟩ =>
    have hle := length_skipSpace_le behind
    match hs : skipSpace behind with
    | ']' :: rest => some ⟨([v], rest), by simp only [hs, List.length_cons] at *; omega⟩
    | ',' :: more =>
      have hle' := length_skipSpace_le more
      match itemsAt depth (skipSpace more) with
      | none => none
      | some ⟨(vs, rest), h'⟩ =>
        some ⟨(v :: vs, rest), by simp only [hs, List.length_cons] at *; omega⟩
    | _ => none
termination_by (cs.length, 1)
decreasing_by
  · right
    decide
  · left
    simp only [hs, List.length_cons] at *
    omega

/-- Read the entries of an object from its first key on, up to the closing brace. -/
def entriesAt (depth : Nat) (cs : List Char) : ReadAt (List (String × Json)) cs :=
  match cs with
  | '"' :: afterQuote =>
    match stringBody afterQuote with
    | none => none
    | some ⟨(key, afterKey), hk⟩ =>
      have hle := length_skipSpace_le afterKey
      match hc : skipSpace afterKey with
      | ':' :: afterColon =>
        have hle' := length_skipSpace_le afterColon
        match valueAt depth (skipSpace afterColon) with
        | none => none
        | some ⟨(v, behind), h⟩ =>
          have hle'' := length_skipSpace_le behind
          match hs : skipSpace behind with
          | '}' :: rest =>
            some ⟨([(String.ofList key, v)], rest), by
              simp only [hs, hc, List.length_cons] at *
              omega⟩
          | ',' :: more =>
            have hle''' := length_skipSpace_le more
            match entriesAt depth (skipSpace more) with
            | none => none
            | some ⟨(es, rest), h'⟩ =>
              some ⟨((String.ofList key, v) :: es, rest), by
                simp only [hs, hc, List.length_cons] at *
                omega⟩
          | _ => none
      | _ => none
  | _ => none
termination_by (cs.length, 1)
decreasing_by
  · left
    simp only [hc, List.length_cons] at *
    omega
  · left
    simp only [hs, hc, List.length_cons] at *
    omega

end

/-- How deep the values of a document may be nested. -/
def depthLimit : Nat :=
  200

/-- The value of a JSON text with at most the given nesting. -/
def ofText? (depth : Nat) (text : String) : Option Json :=
  match valueAt depth (skipSpace text.toList) with
  | none => none
  | some ⟨(v, rest), _⟩ => if (skipSpace rest).isEmpty then some v else none

end Json

end ChannelGraph
