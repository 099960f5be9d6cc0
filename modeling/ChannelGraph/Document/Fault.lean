import ChannelGraph.TypeExpr.Reading

/-!
# Faults of documents

A document is checked as a whole: every fault is reported with the place where it was found,
in the order of the fields and entries of the document. `Checked` is the result of a check;
`Checked.ap` joins two of them and keeps the faults of both.
-/

namespace ChannelGraph

/-- What can be wrong with a value in a document. -/
inductive FaultKind where
  /-- The text is not JSON. -/
  | notJson
  /-- A required field is missing. -/
  | missing
  /-- A field is not known where only known fields may stand. -/
  | unknownField
  /-- An object with known fields is expected. -/
  | notRecord
  /-- An object with arbitrary keys is expected. -/
  | notTable
  /-- An array is expected. -/
  | notList
  /-- A string is expected. -/
  | notText
  /-- No truth value can be made of the value. -/
  | notBool
  /-- A text or number does not denote a truth value. -/
  | unreadableBool
  /-- No integer can be made of the value. -/
  | notInteger
  /-- A text does not denote an integer. -/
  | unreadableInteger
  /-- A floating-point number is too large to be taken for an integer. -/
  | hugeInteger
  /-- A floating-point number has a fraction where an integer is expected. -/
  | fractional
  /-- A floating-point number is infinite or undefined where an integer is expected. -/
  | notFinite
  /-- An integer is smaller than it may be. -/
  | tooSmall
  /-- No floating-point number can be made of the value. -/
  | notFloat
  /-- A text does not denote a floating-point number. -/
  | unreadableFloat
  /-- The value is not one of a fixed list of words. -/
  | unknownWord
  /-- A text is not a type. -/
  | badType (text : String) (refusal : TypeExpr.Refusal)
deriving DecidableEq

/-- What is said about a kind of fault. -/
def FaultKind.message : FaultKind → String
  | notJson => "not a JSON text"
  | missing => "missing"
  | unknownField => "unknown field"
  | notRecord | notTable => "not an object"
  | notList => "not an array"
  | notText => "not a string"
  | notBool | unreadableBool => "not a truth value"
  | notInteger | unreadableInteger | hugeInteger => "not an integer"
  | fractional => "an integer with a fraction"
  | notFinite => "not a finite number"
  | tooSmall => "too small"
  | notFloat | unreadableFloat => "not a number"
  | unknownWord => "unknown word"
  | badType text refusal => TypeExpr.refusalMessage text refusal

/-- A step from a value to one of its parts. -/
inductive PlaceStep where
  /-- The value of a key. -/
  | key (name : String)
  /-- The item at an index. -/
  | index (i : Nat)
deriving DecidableEq

/-- How a step is written in messages. -/
def PlaceStep.text : PlaceStep → String
  | key name => name
  | index i => toString i

/-- A fault with its place, from the outermost step inwards. -/
structure Fault where
  /-- The place of the fault. -/
  place : List PlaceStep
  /-- What is wrong there. -/
  kind : FaultKind
deriving DecidableEq

/-- What is said about a fault. -/
def Fault.message (f : Fault) : String :=
  ".".intercalate (f.place.map PlaceStep.text) ++ ": " ++ f.kind.message

/-- A checked value, or everything that is wrong with it. -/
abbrev Checked (α : Type) :=
  Except (List Fault) α

namespace Checked

variable {α β : Type}

/-- A value with one thing wrong with it as a whole. -/
def fail (kind : FaultKind) : Checked α :=
  .error [⟨[], kind⟩]

/-- A check of one part of a value: its faults get the step to the part. -/
def inside (step : PlaceStep) (x : Checked α) : Checked α :=
  x.mapError fun faults ↦ faults.map fun f ↦ ⟨step :: f.place, f.kind⟩

/-- Apply a checked function to a checked argument; the faults of both are kept. -/
def ap : Checked (α → β) → Checked α → Checked β
  | .ok f, .ok a => .ok (f a)
  | .ok _, .error es => .error es
  | .error es, .ok _ => .error es
  | .error es, .error es' => .error (es ++ es')

/-- Keep a checked value if a second check finds nothing wrong. -/
def andCheck (x : Checked α) (faults : List Fault) : Checked α :=
  if faults.isEmpty then x
  else
    match x with
    | .ok _ => .error faults
    | .error es => .error (es ++ faults)

/-- Check a list of values one after the other, keeping all faults. -/
def all (check : α → Checked β) : List α → Checked (List β)
  | [] => .ok []
  | a :: as => ap ((check a).map List.cons) (all check as)

end Checked

end ChannelGraph
