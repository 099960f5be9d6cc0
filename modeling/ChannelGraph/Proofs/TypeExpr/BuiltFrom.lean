import ChannelGraph.Proofs.TypeExpr.Substitution

/-!
# What types are built from

A type is built from certain names and constructors if it has no others. Substitution keeps this
(`BuiltFrom.substitute`), and what is left of a type when everything else in it is replaced by a
name (`TypeExpr.trim`) commutes with substitution into types that are built from them
(`BuiltFrom.substitute_trim`). A type of which some instance is its own trimmed form has nothing to
trim (`builtFrom_of_substitute_eq_trim`).
-/

namespace ChannelGraph

namespace TypeExpr

variable {N : String → Prop} {C : String → Nat → Prop} {f : TypeParam → TypeExpr} {e : TypeExpr}
  {filler : String}

/-- All names of a type are of one kind, and all constructors, with the numbers of their arguments,
of another. -/
inductive BuiltFrom (N : String → Prop) (C : String → Nat → Prop) : TypeExpr → Prop
  | name {s : String} (h : N s) : BuiltFrom N C (name s)
  | param (p : TypeParam) : BuiltFrom N C (param p)
  | compound {head : String} {args : List TypeExpr} (h : C head args.length)
    (hargs : ∀ a ∈ args, BuiltFrom N C a) : BuiltFrom N C (compound head args)

theorem builtFrom_name_iff {s : String} : BuiltFrom N C (name s) ↔ N s := by
  constructor
  · rintro ⟨h⟩
    exact h
  · exact .name

/-- A compound is built from allowed names and constructors exactly if its constructor is allowed
with as many arguments and they are built from them. -/
theorem builtFrom_compound_iff {head : String} {args : List TypeExpr} :
    BuiltFrom N C (compound head args) ↔ C head args.length ∧ ∀ a ∈ args, BuiltFrom N C a := by
  constructor
  · rintro ⟨⟩
    exact ⟨‹_›, ‹_›⟩
  · exact fun ⟨h, hargs⟩ ↦ .compound h hargs

/-- What is built from allowed names stays so when the types put in for its parameters are. -/
theorem BuiltFrom.substitute (he : BuiltFrom N C e)
    (hf : ∀ p ∈ e.params, BuiltFrom N C (f p)) : BuiltFrom N C (e.substitute f) := by
  induction he with
  | name h => exact .name h
  | param p => exact hf p (List.mem_singleton.2 rfl)
  | compound h _ ih =>
    rw [substitute_compound]
    refine .compound (by rwa [List.length_map]) fun b hb ↦ ?_
    obtain ⟨a, ha, rfl⟩ := List.mem_map.1 hb
    exact ih a ha fun p hp ↦ hf p (mem_params_compound.2 ⟨a, ha, hp⟩)

/-- What is built from fewer names and constructors is built from more. -/
theorem BuiltFrom.mono {N' : String → Prop} {C' : String → Nat → Prop} (h : BuiltFrom N C e)
    (hnames : ∀ s, N s → N' s) (hheads : ∀ head arity, C head arity → C' head arity) :
    BuiltFrom N' C' e := by
  induction h with
  | name hs => exact .name (hnames _ hs)
  | param p => exact .param p
  | compound hhead _ ih => exact .compound (hheads _ _ hhead) ih

open Classical in
mutual

/-- A type with a name in the place of everything that is not built from some names and
constructors. -/
noncomputable def trim (N : String → Prop) (C : String → Nat → Prop) (filler : String) :
    TypeExpr → TypeExpr
  | name s => if N s then name s else name filler
  | param p => param p
  | compound head args =>
    if C head args.length then compound head (trimAll N C filler args) else name filler

/-- Several types, each with a name in such places. -/
noncomputable def trimAll (N : String → Prop) (C : String → Nat → Prop) (filler : String) :
    List TypeExpr → List TypeExpr
  | [] => []
  | e :: es => trim N C filler e :: trimAll N C filler es

end

theorem trimAll_eq (es : List TypeExpr) : trimAll N C filler es = es.map (trim N C filler) := by
  induction es with
  | nil => rfl
  | cons e es ih => rw [trimAll, ih, List.map_cons]

/-- In a type that is built from the names and constructors only the values of the parameters are
trimmed. -/
theorem BuiltFrom.substitute_trim (he : BuiltFrom N C e) (f : TypeParam → TypeExpr) :
    e.substitute (fun p ↦ trim N C filler (f p)) = trim N C filler (e.substitute f) := by
  induction he with
  | name h => exact (if_pos h).symm
  | param p => rfl
  | compound h _ ih =>
    rw [substitute_compound, substitute_compound, trim, List.length_map, if_pos h, trimAll_eq,
      List.map_map]
    congr 1
    exact List.map_congr_left ih

/-- If a type has an instance in which everything else was cut away, there was nothing else in
it. -/
theorem builtFrom_of_substitute_eq_trim (hfiller : N filler)
    (h : e.substitute f = trim N C filler e) : BuiltFrom N C e := by
  induction e using rec_args with
  | name s =>
    rw [trim] at h
    split at h
    · rename_i hs
      exact .name hs
    · cases h
      exact .name hfiller
  | param p => exact .param p
  | compound head args ih =>
    rw [substitute_compound, trim] at h
    split at h
    · rename_i hhead
      injection h with _ hargs
      rw [trimAll_eq] at hargs
      exact .compound hhead fun a ha ↦ ih a ha (List.map_inj_left.1 hargs a ha)
    · cases h

end TypeExpr

end ChannelGraph
