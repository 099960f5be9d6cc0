import ChannelGraph.TypeExpr.Basic

/-!
# The text of a type

Names stand for themselves, parameters follow a dollar sign, a map is `map[K]V`, a channel
has a space before its element, and every other constructor with one argument stands
directly before it. A tree with any other shape has no text; the outermost such place is
reported, and of two arguments the first (`TypeExpr.written`). Which trees have a text is
`TypeExpr.IsWritable`.
-/

namespace ChannelGraph

/-- A constructor with a number of arguments that it cannot be written with. -/
structure Malformed where
  /-- The head of the constructor. -/
  head : String
  /-- The number of its arguments. -/
  arity : Nat
deriving DecidableEq

namespace Malformed

/-- What is said about a constructor that cannot be written. -/
def message (m : Malformed) : String :=
  s!"Malformed compound type: {m.head} with {m.arity} argument(s)"

end Malformed

namespace TypeExpr

/-- The heads that are written with a space before their argument. -/
def isChannelHead (head : String) : Bool :=
  head == "chan" || head == "<-chan" || head == "chan<-"

/-- The text of a type, or the outermost constructor that cannot be written. -/
def written : TypeExpr → Except Malformed String
  | name s => .ok s
  | param p => .ok ("$" ++ p.ident)
  | compound head [elem] =>
    (written elem).map fun t ↦ if isChannelHead head then head ++ " " ++ t else head ++ t
  | compound head [key, value] =>
    if head = "map" then
      match written key with
      | .error m => .error m
      | .ok k => (written value).map fun v ↦ "map[" ++ k ++ "]" ++ v
    else .error ⟨head, 2⟩
  | compound head args => .error ⟨head, args.length⟩

/-- The trees that have a text: every constructor has one argument, or is `map` with two. -/
inductive IsWritable : TypeExpr → Prop
  | name (s : String) : IsWritable (name s)
  | param (p : TypeParam) : IsWritable (param p)
  | unary (head : String) {elem : TypeExpr} (h : IsWritable elem) :
      IsWritable (compound head [elem])
  | map {key value : TypeExpr} (hk : IsWritable key) (hv : IsWritable value) :
      IsWritable (compound "map" [key, value])

/-- A type can be written out if each of its constructors has the arguments that its writing
needs. -/
theorem IsWritable.exists_written {e : TypeExpr} (h : e.IsWritable) :
    ∃ t, e.written = .ok t := by
  induction h with
  | name s => exact ⟨s, rfl⟩
  | param p => exact ⟨_, rfl⟩
  | unary head _ ih =>
    obtain ⟨t, ht⟩ := ih
    exact ⟨_, by rw [written, ht]; rfl⟩
  | map _ _ ihk ihv =>
    obtain ⟨k, hk⟩ := ihk
    obtain ⟨v, hv⟩ := ihv
    exact ⟨_, by rw [written, if_pos rfl, hk, hv]; rfl⟩

end TypeExpr

end ChannelGraph
