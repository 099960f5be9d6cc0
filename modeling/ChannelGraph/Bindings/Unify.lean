import ChannelGraph.Bindings.Basic
import ChannelGraph.Interrupted
import ChannelGraph.TypeExpr.Written

/-!
# Unification

`Bindings.unify` makes two types equal by binding parameters, from the outside inwards and
from left to right. A parameter is bound only if it does not occur in the instantiated other
side. At the first place where the types cannot be made equal the run stops; the bindings
made until then stay.

A binding is announced and a conflict is reported with the texts of the types, so a type
without text stops the run with its malformed constructor instead, and binds nothing.

The descent is bounded: it only meets pairs of subtypes of the two types and of the bound
types, fewer than `Bindings.descentBound`, and to meet a pair a second time below itself
means that the bindings lead back to themselves on both sides (`UnifyFault.endless`).
-/

namespace ChannelGraph

/-- Why two types cannot be made equal. -/
inductive Mismatch where
  /-- Two different names. -/
  | names
  /-- Different heads, different arities, or a name against a constructor. -/
  | constructors
  /-- A parameter against a type in which it occurs. -/
  | recursive
deriving DecidableEq

namespace Mismatch

/-- The wording of a mismatch. -/
def message : Mismatch → String
  | names => "different named types"
  | constructors => "different type constructors"
  | recursive => "recursive type"

end Mismatch

/-- Two types that cannot be made equal, and why. -/
structure Conflict where
  /-- The type on the left side. -/
  left : TypeExpr
  /-- The type on the right side. -/
  right : TypeExpr
  /-- Why they differ. -/
  mismatch : Mismatch
deriving DecidableEq

/-- What is said about a conflict, with the texts of both sides; or the first side that has no
text. -/
def Conflict.message (c : Conflict) : Except Malformed String :=
  match c.left.written with
  | .error m => .error m
  | .ok l => c.right.written.map fun r ↦ s!"cannot unify {l} with {r}: {c.mismatch.message}"

/-- Why a unification stopped. -/
inductive UnifyFault where
  /-- The types cannot be made equal, as the message says. -/
  | conflict (c : Conflict) (message : String)
  /-- A type that had to be shown has no text. -/
  | malformed (m : Malformed)
  /-- A parameter leads back to itself through parameters alone. -/
  | cyclic (c : CyclicBinding)
  /-- The bindings lead back to themselves through constructors, inside of one type or on both
  sides. -/
  | endless
deriving DecidableEq

namespace UnifyFault

/-- What is said about a fault. -/
def message : UnifyFault → String
  | conflict _ message => message
  | malformed m => m.message
  | cyclic c => c.message
  | endless => "Endless bindings"

/-- The fault that stops a unification where a type cannot be instantiated. -/
def ofApply : ApplyFault → UnifyFault
  | .cyclic c => cyclic c
  | .endless _ => endless

/-- The fault that a conflict is: if a side has no text, the constructor that has none. -/
def ofConflict (c : Conflict) : UnifyFault :=
  match c.message with
  | .error m => malformed m
  | .ok message => conflict c message

end UnifyFault

namespace Bindings

/-- Bind a parameter to a type that it does not occur in and that has a text. -/
def bind (m : Bindings) (p : TypeParam) (e : TypeExpr) :
    Except (Interrupted UnifyFault Bindings) Bindings :=
  match e with
  | .param q => .ok (m.insert p (.param q))
  | e =>
    match m.apply e with
    | .error f => .error ⟨.ofApply f, m⟩
    | .ok full =>
      if p ∈ full.params then .error ⟨.ofConflict ⟨.param p, e, .recursive⟩, m⟩
      else
        match e.written with
        | .error f => .error ⟨.malformed f, m⟩
        | .ok _ => .ok (m.insert p e)

/-- Unify two types, descending at most a number of levels. -/
def unifyWithin : Nat → Bindings → TypeExpr → TypeExpr →
    Except (Interrupted UnifyFault Bindings) Bindings
  | 0, m, _, _ => .error ⟨.endless, m⟩
  | levels + 1, m, left, right =>
    match m.resolve left with
    | .error c => .error ⟨.cyclic c, m⟩
    | .ok l =>
      match m.resolve right with
      | .error c => .error ⟨.cyclic c, m⟩
      | .ok r =>
        if l = r then .ok m
        else
          match l, r with
          | .param p, r => m.bind p r
          | l, .param q => m.bind q l
          | .compound lh la, .compound rh ra =>
            if lh = rh ∧ la.length = ra.length then
              (la.zip ra).foldlM (fun m pair ↦ unifyWithin levels m pair.1 pair.2) m
            else .error ⟨.ofConflict ⟨l, r, .constructors⟩, m⟩
          | .name _, .name _ => .error ⟨.ofConflict ⟨l, r, .names⟩, m⟩
          | l, r => .error ⟨.ofConflict ⟨l, r, .constructors⟩, m⟩

/-- A number of levels that no descent exceeds without meeting a pair of subtypes again: the
square of the number of subtypes there are. -/
def descentBound (m : Bindings) (left right : TypeExpr) : Nat :=
  let subtypes := TypeExpr.sizeAll m.values + left.size + right.size + 1
  subtypes * subtypes

/-- Make two types equal under the bindings, extending them. -/
def unify (m : Bindings) (left right : TypeExpr) :
    Except (Interrupted UnifyFault Bindings) Bindings :=
  unifyWithin (m.descentBound left right) m left right

end Bindings

end ChannelGraph
