import ChannelGraph.Decimal.Binary64

/-!
# JSON values

The values of JSON texts. Numbers keep whether they were written as integers, which have any
size, or with a fraction or exponent. The members of an object are kept in the order of the
text; `Json.settle` settles repeated keys, which keep their first place and take their last
value.
-/

namespace ChannelGraph

/-- A JSON value. -/
inductive Json where
  | null
  | bool (b : Bool)
  | int (n : Int)
  | float (x : Binary64)
  | string (s : String)
  | array (items : List Json)
  | object (entries : List (String × Json))

namespace Json

instance : Inhabited Json :=
  ⟨null⟩

/-! ### Equality -/

mutual

/-- Equality of values is decided along their contents. -/
def decEq : (a b : Json) → Decidable (a = b)
  | null, null => isTrue rfl
  | bool a, bool b => decidable_of_iff (a = b) (by simp only [bool.injEq])
  | int a, int b => decidable_of_iff (a = b) (by simp only [int.injEq])
  | float a, float b => decidable_of_iff (a = b) (by simp only [float.injEq])
  | string a, string b => decidable_of_iff (a = b) (by simp only [string.injEq])
  | array as, array bs =>
    match decEqItems as bs with
    | isTrue e => isTrue (by rw [e])
    | isFalse e => isFalse fun c ↦ e (array.inj c)
  | object as, object bs =>
    match decEqEntries as bs with
    | isTrue e => isTrue (by rw [e])
    | isFalse e => isFalse fun c ↦ e (object.inj c)
  | null, bool _ | null, int _ | null, float _ | null, string _ | null, array _ | null, object _
  | bool _, null | bool _, int _ | bool _, float _ | bool _, string _ | bool _, array _
  | bool _, object _ | int _, null | int _, bool _ | int _, float _ | int _, string _
  | int _, array _ | int _, object _ | float _, null | float _, bool _ | float _, int _
  | float _, string _ | float _, array _ | float _, object _ | string _, null | string _, bool _
  | string _, int _ | string _, float _ | string _, array _ | string _, object _ | array _, null
  | array _, bool _ | array _, int _ | array _, float _ | array _, string _ | array _, object _
  | object _, null | object _, bool _ | object _, int _ | object _, float _ | object _, string _
  | object _, array _ => isFalse nofun

/-- Equality of the items of arrays. -/
def decEqItems : (as bs : List Json) → Decidable (as = bs)
  | [], [] => isTrue rfl
  | [], _ :: _ | _ :: _, [] => isFalse nofun
  | a :: as, b :: bs =>
    match decEq a b, decEqItems as bs with
    | isTrue e, isTrue f => isTrue (by rw [e, f])
    | isFalse e, _ => isFalse fun c ↦ e (List.cons.inj c).1
    | _, isFalse f => isFalse fun c ↦ f (List.cons.inj c).2

/-- Equality of the entries of objects. -/
def decEqEntries : (as bs : List (String × Json)) → Decidable (as = bs)
  | [], [] => isTrue rfl
  | [], _ :: _ | _ :: _, [] => isFalse nofun
  | (k, a) :: as, (l, b) :: bs =>
    if hk : k = l then
      match decEq a b, decEqEntries as bs with
      | isTrue e, isTrue f => isTrue (by rw [hk, e, f])
      | isFalse e, _ => isFalse fun c ↦ e (Prod.mk.inj (List.cons.inj c).1).2
      | _, isFalse f => isFalse fun c ↦ f (List.cons.inj c).2
    else isFalse fun c ↦ hk (Prod.mk.inj (List.cons.inj c).1).1

end

instance : DecidableEq Json :=
  decEq

/-! ### Members -/

/-- Put a member into a list of members: in place of one with the same key, else at the end. -/
def setMember (key : String) (value : Json) : List (String × Json) → List (String × Json)
  | [] => [(key, value)]
  | m :: ms => if m.1 = key then (key, value) :: ms else m :: setMember key value ms

/-- The members of an object with repeated keys settled: each key has its first place and its
last value. -/
def settle (entries : List (String × Json)) : List (String × Json) :=
  entries.foldl (fun ms m ↦ setMember m.1 m.2 ms) []

/-- The value of a key among settled members. -/
def member? (key : String) (members : List (String × Json)) : Option Json :=
  members.lookup key

/-! ### Values as truths and numbers -/

/-- Whether a value counts as false: null, false, zero and everything empty. -/
def isBlank : Json → Bool
  | null => true
  | bool b => !b
  | int n => n == 0
  | float (.finite _ m _) => m == 0
  | float _ => false
  | string s => s.isEmpty
  | array items => items.isEmpty
  | object entries => entries.isEmpty

/-- Whether a value holds other values, even if there are none. Nothing can be looked up by such a
value. -/
def isContainer : Json → Bool
  | array _ | object _ => true
  | _ => false

/-- Whether a number is less than an integer. Truth values are compared as zero and one, other
values not at all. -/
def isBelow? (n : Int) : Json → Option Bool
  | bool b => some (decide ((if b then 1 else 0) < n))
  | int m => some (decide (m < n))
  | float x => some (x.isBelow n)
  | _ => none

end Json

end ChannelGraph
