import ChannelGraph.Document.Lenient
import ChannelGraph.OrderedMap

/-!
# Fields, tables and lists

The building blocks of document readers. A record is read field by field: a field may have a
default, and each fault gets the field's key as a step of its place. A table is an object with
arbitrary keys; a list is an array. Where only known fields may stand, the others are
reported behind the faults of the known ones.

Where a key is repeated, a record has the last value of it, and the others are not looked at.
A table has the last value too, but is checked entry by entry as it is written.
-/

namespace ChannelGraph

/-- The members of a value that has to be an object, with repeated keys settled. -/
def Json.membersOr (kind : FaultKind) : Json → Checked (List (String × Json))
  | .object entries => .ok (settle entries)
  | _ => Checked.fail kind

namespace Checked

variable {α : Type}

/-- Check a value by a function that finds at most one fault. -/
def leaf (read : Json → Except FaultKind α) (v : Json) : Checked α :=
  match read v with
  | .ok a => .ok a
  | .error k => fail k

/-- A field that has to be there. -/
def required (members : List (String × Json)) (key : String) (check : Json → Checked α) :
    Checked α :=
  inside (.key key) <|
    match Json.member? key members with
    | none => fail .missing
    | some v => check v

/-- A field that may be left out. -/
def optional (members : List (String × Json)) (key : String) (default : α)
    (check : Json → Checked α) : Checked α :=
  match Json.member? key members with
  | none => .ok default
  | some v => inside (.key key) (check v)

/-- The faults of the members that are not among the known keys. -/
def unknownFields (members : List (String × Json)) (known : List String) : List Fault :=
  (members.filter fun m ↦ m.1 ∉ known).map fun m ↦ ⟨[.key m.1], .unknownField⟩

/-- The entries of a table, whose values are checked alike. -/
def entries (check : Json → Checked α) (es : List (String × Json)) :
    Checked (OrderedMap String α) :=
  (all (fun e : String × Json ↦ (inside (.key e.1) (check e.2)).map (e.1, ·)) es).map .ofList

/-- An object with arbitrary keys as it is written: every entry is checked, also one whose
place a later entry of the same key takes. -/
def writtenTable (check : Json → Checked α) : Json → Checked (OrderedMap String α)
  | .object es => entries check es
  | _ => fail .notTable

/-- An object with arbitrary keys whose repeated keys are settled first. -/
def table (check : Json → Checked α) (v : Json) : Checked (OrderedMap String α) :=
  (v.membersOr .notTable).bind (entries check)

/-- An array whose items are checked alike. -/
def list (check : Json → Checked α) : Json → Checked (List α)
  | .array items =>
    all (fun m : Json × Nat ↦ inside (.index m.2) (check m.1)) items.zipIdx
  | _ => fail .notList

end Checked

end ChannelGraph
