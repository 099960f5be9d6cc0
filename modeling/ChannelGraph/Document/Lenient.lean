import ChannelGraph.Document.TextNumeral
import ChannelGraph.Json.Basic
import ChannelGraph.Positive

/-!
# Lenient values

What a document may write where a truth value, an integer or a floating-point number is
expected. Texts that denote the value are accepted (module
`ChannelGraph.Document.TextNumeral`), numbers that are integral count as integers, and truth
values count as zero and one.
-/

namespace ChannelGraph.Lenient

open ChannelGraph

/-- The first integer too large for 64 bits. -/
def wordBound : Int :=
  9223372036854775808

/-- Whether an integer fits into 64 bits. -/
def fitsWord (n : Int) : Bool :=
  -wordBound ≤ n && n < wordBound

/-- The integer that a floating-point number is, if it lies strictly within 64 bits. -/
def integerOfFloat (x : Binary64) : Except FaultKind Int :=
  if x.isFinite then
    match x.toInt? with
    | none => .error .fractional
    | some n => if -wordBound < n ∧ n < wordBound then .ok n else .error .hugeInteger
  else .error .notFinite

/-- The truth value that an integer stands for. -/
def boolOfInteger (n : Int) : Except FaultKind Bool :=
  if n = 0 then .ok false else if n = 1 then .ok true else .error .unreadableBool

/-- The words for false, in lower case. -/
def falseWords : List String :=
  ["0", "off", "f", "false", "n", "no"]

/-- The words for true, in lower case. -/
def trueWords : List String :=
  ["1", "on", "t", "true", "y", "yes"]

/-- A truth value. -/
def bool : Json → Except FaultKind Bool
  | .bool b => .ok b
  | .int n => if fitsWord n then boolOfInteger n else .error .notBool
  | .float x =>
    match integerOfFloat x with
    | .ok n => boolOfInteger n
    | .error _ => .error .notBool
  | .string s =>
    let word := String.ofList (s.toList.map Char.toLower)
    if word ∈ falseWords then .ok false
    else if word ∈ trueWords then .ok true
    else .error .unreadableBool
  | _ => .error .notBool

/-- An integer. -/
def integer : Json → Except FaultKind Int
  | .int n => .ok n
  | .bool b => .ok (if b then 1 else 0)
  | .float x => integerOfFloat x
  | .string s => TextNumeral.integer s
  | _ => .error .notInteger

/-- A natural number. -/
def natural (v : Json) : Except FaultKind Nat :=
  (integer v).bind fun n ↦ if 0 ≤ n then .ok n.toNat else .error .tooSmall

/-- A positive number. -/
def positive (v : Json) : Except FaultKind Positive :=
  (integer v).bind fun n ↦
    match Positive.ofInt? n with
    | some p => .ok p
    | none => .error .tooSmall

/-- A floating-point number. -/
def float : Json → Except FaultKind Binary64
  | .float x => .ok x
  | .int n => .ok (.ofInt n)
  | .bool b => .ok (.ofInt (if b then 1 else 0))
  | .string s =>
    match TextNumeral.float? s with
    | some x => .ok x
    | none => .error .unreadableFloat
  | _ => .error .notFloat

/-- A floating-point number that is stored. Unlike in a text, an integer has to be in the range of
such numbers. -/
def storedFloat (v : Json) : Except FaultKind Binary64 :=
  match v, float v with
  | .int _, .ok (.infinity _) => .error .notFloat
  | _, r => r

/-- A text; only strings are texts. -/
def text : Json → Except FaultKind String
  | .string s => .ok s
  | _ => .error .notText

end ChannelGraph.Lenient
