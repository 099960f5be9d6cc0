/-!
# Type expressions

A type is a named type, a type parameter, or a constructor applied to argument types. A
parameter carries the scope it was instantiated for, so that two parameters spelled alike in
two scopes are different parameters.

Constructors are kept as their heads: `[]` for slices, `[N]` for arrays, `*` for pointers,
`chan`, `<-chan` and `chan<-` for channels, each with one argument, and `map` with two. Trees
with other heads or arities exist; they are the ones that have no text (`TypeExpr.written`).

Recursion goes through the list of arguments, so every function comes with a companion on
lists; lemmas state it through core's list functions (`paramsAll_eq`, `substituteAll_eq`).
-/

namespace ChannelGraph

/-- A type parameter: a scope, normally the name of a node, and an identifier in it. -/
structure TypeParam where
  /-- The scope in which the identifier is meant. -/
  scope : String
  /-- The identifier, written after a dollar sign. -/
  ident : String
deriving DecidableEq

/-- A type expression. -/
inductive TypeExpr where
  /-- A concrete named type such as `int` or `pkg.Name`. -/
  | name (text : String)
  /-- A free type parameter. -/
  | param (p : TypeParam)
  /-- A type constructor applied to its arguments. -/
  | compound (head : String) (args : List TypeExpr)

namespace TypeExpr

instance : Inhabited TypeExpr :=
  ⟨name ""⟩

/-- Induction on a type expression with the hypothesis for every argument. -/
@[elab_as_elim]
theorem rec_args {motive : TypeExpr → Prop} (name : ∀ s, motive (.name s))
    (param : ∀ p, motive (.param p))
    (compound : ∀ h args, (∀ a ∈ args, motive a) → motive (.compound h args)) :
    ∀ e, motive e
  | .name s => name s
  | .param p => param p
  | .compound h args => compound h args fun a _ ↦ rec_args name param compound a

/-! ### Equality -/

mutual

/-- Equality of type expressions is decided along the trees. -/
def decEq : (a b : TypeExpr) → Decidable (a = b)
  | name s, name t => decidable_of_iff (s = t) (by simp)
  | param p, param q => decidable_of_iff (p = q) (by simp)
  | compound h as, compound k bs =>
    if hk : h = k then
      match decEqAll as bs with
      | isTrue e => isTrue (by rw [hk, e])
      | isFalse e => isFalse fun c ↦ by injection c with _ c; exact e c
    else isFalse fun c ↦ by injection c with c _; exact hk c
  | name _, param _ | name _, compound .. | param _, name _ | param _, compound ..
  | compound .., name _ | compound .., param _ => isFalse (by simp)

/-- Equality of lists of type expressions. -/
def decEqAll : (as bs : List TypeExpr) → Decidable (as = bs)
  | [], [] => isTrue rfl
  | [], _ :: _ | _ :: _, [] => isFalse (by simp)
  | a :: as, b :: bs =>
    match decEq a b, decEqAll as bs with
    | isTrue e, isTrue f => isTrue (by rw [e, f])
    | isFalse e, _ => isFalse fun c ↦ by injection c with c _; exact e c
    | _, isFalse f => isFalse fun c ↦ by injection c with _ c; exact f c

end

instance : DecidableEq TypeExpr :=
  decEq

/-! ### Parameters -/

mutual

/-- The parameters of a type, in order of appearance, repetitions included. -/
def params : TypeExpr → List TypeParam
  | name _ => []
  | param p => [p]
  | compound _ args => paramsAll args

/-- The parameters of several types, one type after the other. -/
def paramsAll : List TypeExpr → List TypeParam
  | [] => []
  | e :: es => params e ++ paramsAll es

end

theorem paramsAll_eq (es : List TypeExpr) : paramsAll es = es.flatMap params := by
  induction es with
  | nil => rfl
  | cons e es ih => simp [paramsAll, ih]

/-- The parameters of a compound are those of its arguments. -/
theorem mem_params_compound {h : String} {args : List TypeExpr} {p : TypeParam} :
    p ∈ params (compound h args) ↔ ∃ a ∈ args, p ∈ params a := by
  simp [params, paramsAll_eq]

/-- A type is concrete if no parameter occurs in it. -/
def isConcrete (e : TypeExpr) : Bool :=
  e.params.isEmpty

/-- A type is concrete exactly if it has no parameters. -/
theorem isConcrete_iff {e : TypeExpr} : e.isConcrete ↔ e.params = [] := by
  simp [isConcrete]

/-! ### Size -/

mutual

/-- The number of names, parameters and constructors in a type. -/
def size : TypeExpr → Nat
  | name _ => 1
  | param _ => 1
  | compound _ args => 1 + sizeAll args

/-- The number of names, parameters and constructors in several types. -/
def sizeAll : List TypeExpr → Nat
  | [] => 0
  | e :: es => size e + sizeAll es

end

/-- One type is no larger than all together. -/
theorem size_le_sizeAll {e : TypeExpr} {es : List TypeExpr} (h : e ∈ es) :
    e.size ≤ sizeAll es := by
  induction es with
  | nil => simp at h
  | cons e' es ih =>
    rcases List.mem_cons.1 h with rfl | h
    · simp [sizeAll]
    · have := ih h
      simp only [sizeAll]
      omega

/-- An argument is smaller than the type it occurs in. -/
theorem size_lt_of_mem {h : String} {args : List TypeExpr} {a : TypeExpr} (ha : a ∈ args) :
    a.size < (compound h args).size := by
  have := size_le_sizeAll ha
  simp only [size]
  omega

/-! ### Substitution -/

mutual

/-- Replace every parameter by a type. -/
def substitute (f : TypeParam → TypeExpr) : TypeExpr → TypeExpr
  | name s => name s
  | param p => f p
  | compound h args => compound h (substituteAll f args)

/-- Replace every parameter of several types. -/
def substituteAll (f : TypeParam → TypeExpr) : List TypeExpr → List TypeExpr
  | [] => []
  | e :: es => substitute f e :: substituteAll f es

end

theorem substituteAll_eq (f : TypeParam → TypeExpr) (es : List TypeExpr) :
    substituteAll f es = es.map (substitute f) := by
  induction es with
  | nil => rfl
  | cons e es ih => simp [substituteAll, ih]

/-- Substitution goes into the arguments and leaves constructors alone. -/
theorem substitute_compound (f : TypeParam → TypeExpr) (h : String) (args : List TypeExpr) :
    substitute f (compound h args) = compound h (args.map (substitute f)) := by
  simp [substitute, substituteAll_eq]

/-- Only the values at occurring parameters matter to a substitution. -/
theorem substitute_congr {f g : TypeParam → TypeExpr} {e : TypeExpr}
    (h : ∀ p ∈ e.params, f p = g p) : substitute f e = substitute g e := by
  induction e using rec_args with
  | name s => rfl
  | param p => exact h p (by simp [params])
  | compound hd args ih =>
    rw [substitute_compound, substitute_compound]
    congr 1
    exact List.map_congr_left fun a ha ↦
      ih a ha fun p hp ↦ h p (mem_params_compound.2 ⟨a, ha, hp⟩)

/-- Replacing every parameter by itself changes nothing. -/
theorem substitute_param (e : TypeExpr) : substitute param e = e := by
  induction e using rec_args with
  | name s => rfl
  | param p => rfl
  | compound h args ih =>
    rw [substitute_compound, List.map_congr_left ih, List.map_id']

/-- A concrete type is not changed by any substitution. -/
theorem substitute_of_isConcrete {f : TypeParam → TypeExpr} {e : TypeExpr} (h : e.isConcrete) :
    substitute f e = e := by
  rw [isConcrete_iff] at h
  rw [substitute_congr (g := param) (by simp [h]), substitute_param]

/-- Move all parameters of a type into one scope. -/
def inScope (scope : String) (e : TypeExpr) : TypeExpr :=
  e.substitute fun p ↦ param ⟨scope, p.ident⟩

/-- Replace every remaining parameter by a default type. -/
def groundWith (e default : TypeExpr) : TypeExpr :=
  e.substitute fun _ ↦ default

/-- Replace the parameters of a type by a default, if it has any. -/
def ground? (e default : TypeExpr) : Option TypeExpr :=
  if e.isConcrete then none else some (e.groundWith default)

end TypeExpr

end ChannelGraph
