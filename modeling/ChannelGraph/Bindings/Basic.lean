import ChannelGraph.OrderedMap
import ChannelGraph.TypeExpr.Basic

/-!
# Bindings of type parameters

A map of bindings gives types to some parameters. The types may contain bound parameters
again, so a binding is followed (`Bindings.resolve`) and a type is instantiated
(`Bindings.apply`) until no bound parameter is left.

A map is not required to be acyclic. Both functions carry the bound parameters that the way
down to the current place has not passed yet; a parameter is followed only if it is among
them, and is then removed from them. So both end on every map, and a bound parameter that is
not among them has been passed before: its bindings lead back to it, and it is reported. A
cycle may go through parameters alone (`CyclicBinding`), which stops following them, or
through a constructor, which makes the instantiated type endless (`ApplyFault`).
-/

namespace ChannelGraph

/-- Types given to parameters, in the order in which they were given. -/
abbrev Bindings :=
  OrderedMap TypeParam TypeExpr

/-- A parameter whose bindings lead back to it. -/
structure CyclicBinding where
  /-- The parameter that was met again. -/
  param : TypeParam
deriving DecidableEq

namespace CyclicBinding

/-- What is said about a cycle. -/
def message (c : CyclicBinding) : String :=
  s!"Cyclic binding through {c.param.scope}.${c.param.ident}"

end CyclicBinding

/-- Why a type cannot be instantiated. -/
inductive ApplyFault where
  /-- A parameter leads back to itself through parameters alone. -/
  | cyclic (c : CyclicBinding)
  /-- A parameter is met again inside of its own type. -/
  | endless (param : TypeParam)
deriving DecidableEq

namespace ApplyFault

/-- What is said about a fault. -/
def message : ApplyFault → String
  | cyclic c => c.message
  | endless p => s!"Endless type for {p.scope}.${p.ident}"

end ApplyFault

namespace Bindings

/-- Follow the bindings of a parameter, through parameters in `rest` only. -/
def resolveWithin (m : Bindings) (rest : List TypeParam) (e : TypeExpr) :
    Except CyclicBinding TypeExpr :=
  match e with
  | .param p =>
    match m.get? p with
    | none => .ok (.param p)
    | some bound =>
      if p ∈ rest then resolveWithin m (rest.erase p) bound else .error ⟨p⟩
  | e => .ok e
termination_by rest.length
decreasing_by
  rename_i hp
  rw [List.length_erase_of_mem hp]
  exact Nat.sub_lt (List.length_pos_of_mem hp) Nat.one_pos

/-- Follow the bindings of a type that is a parameter, to the first type that is not a bound
parameter. Other types stay as they are. -/
def resolve (m : Bindings) (e : TypeExpr) : Except CyclicBinding TypeExpr :=
  resolveWithin m m.keys e

mutual

/-- Instantiate a type, entering the types of parameters in `rest` only. -/
def applyWithin (m : Bindings) (rest : List TypeParam) (e : TypeExpr) :
    Except ApplyFault TypeExpr :=
  match e with
  | .name s => .ok (.name s)
  | .param p =>
    match m.resolve (.param p) with
    | .error c => .error (.cyclic c)
    | .ok (.param q) => .ok (.param q)
    | .ok bound => if p ∈ rest then applyWithin m (rest.erase p) bound else .error (.endless p)
  | .compound head args => (applyAllWithin m rest args).map (.compound head)
termination_by (rest.length, sizeOf e)
decreasing_by
  · rename_i hp
    left
    rw [List.length_erase_of_mem hp]
    exact Nat.sub_lt (List.length_pos_of_mem hp) Nat.one_pos
  · right
    simp only [TypeExpr.compound.sizeOf_spec]
    omega

/-- Instantiate several types, one after the other. -/
def applyAllWithin (m : Bindings) (rest : List TypeParam) (es : List TypeExpr) :
    Except ApplyFault (List TypeExpr) :=
  match es with
  | [] => .ok []
  | e :: es =>
    match applyWithin m rest e with
    | .error f => .error f
    | .ok e' => (applyAllWithin m rest es).map (e' :: ·)
termination_by (rest.length, sizeOf es)
decreasing_by
  · right
    simp only [List.cons.sizeOf_spec]
    omega
  · right
    simp only [List.cons.sizeOf_spec]
    omega

end

/-- Instantiate a type: replace bound parameters by their types until none is left. -/
def apply (m : Bindings) (e : TypeExpr) : Except ApplyFault TypeExpr :=
  applyWithin m m.keys e

/-- Instantiate a type, if that changes it. -/
def refine? (m : Bindings) (e : TypeExpr) : Except ApplyFault (Option TypeExpr) :=
  (m.apply e).map fun e' ↦ if e' = e then none else some e'

end Bindings

end ChannelGraph
