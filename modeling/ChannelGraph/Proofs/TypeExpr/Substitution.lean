import ChannelGraph.TypeExpr.Written
import Mathlib.Data.List.Basic

/-!
# Substitutions

How substitutions compose, what occurs in an instance of a type, and how large it is. A type and an
instance of it that are instances of each other are renamed forms of one another, which one default
for all parameters makes equal (`groundWith_substitute`). Types are finite, so a parameter never has
the same instance as a type in which it occurs beside something else
(`substitute_ne_of_mem_params`): this is the only reason why an equation with such sides has no
solution.

An instance of a type that has a text has a text too, if what is put in has one
(`IsWritable.substitute`).
-/

namespace ChannelGraph

namespace TypeExpr

variable {f g : TypeParam → TypeExpr} {e : TypeExpr} {p : TypeParam}

/-! ### Composition -/

/-- Replacing parameters twice is replacing them once by the instances of their values. -/
theorem substitute_substitute (f g : TypeParam → TypeExpr) (e : TypeExpr) :
    (e.substitute f).substitute g = e.substitute fun p ↦ (f p).substitute g := by
  induction e using rec_args with
  | name s => rfl
  | param p => rfl
  | compound h args ih =>
    rw [substitute_compound, substitute_compound, substitute_compound, List.map_map]
    congr 1
    exact List.map_congr_left ih

/-! ### Renaming -/

/-- Rename the parameters of a type. -/
def rename (r : TypeParam → TypeParam) (e : TypeExpr) : TypeExpr :=
  e.substitute fun p ↦ param (r p)

/-- Replacing renamed parameters is replacing the parameters by what their new names stand for. -/
theorem substitute_rename (r : TypeParam → TypeParam) (f : TypeParam → TypeExpr) (e : TypeExpr) :
    (e.rename r).substitute f = e.substitute fun p ↦ f (r p) :=
  substitute_substitute _ _ _

/-- A type and an instance of it that has the type as an instance differ in the names of parameters
only, so they become equal where one type is put in for all of these. -/
theorem groundWith_substitute (h : (e.substitute f).substitute g = e) (default : TypeExpr) :
    (e.substitute f).groundWith default = e.groundWith default := by
  induction e using rec_args with
  | name s => rfl
  | param p =>
    -- only a parameter has a parameter as an instance
    have hparam : (f p).substitute g = param p := h
    show (f p).groundWith default = default
    cases hvalue : f p with
    | name s =>
      rw [hvalue] at hparam
      cases hparam
    | param q => rfl
    | compound hd args =>
      rw [hvalue, substitute_compound] at hparam
      cases hparam
  | compound hd args ih =>
    rw [substitute_compound, substitute_compound, List.map_map, compound.injEq] at h
    have hargs : ∀ a ∈ args, (a.substitute f).substitute g = a :=
      List.map_eq_map_iff.1 (h.2.trans (List.map_id args).symm)
    rw [substitute_compound, groundWith, groundWith, substitute_compound, substitute_compound,
      List.map_map]
    congr 1
    exact List.map_congr_left fun a ha ↦ ih a ha (hargs a ha)

/-! ### What occurs in an instance -/

/-- The parameters of an instance are those of the values, in the order of the parameters that they
replace. -/
theorem params_substitute (f : TypeParam → TypeExpr) (e : TypeExpr) :
    (e.substitute f).params = e.params.flatMap fun p ↦ (f p).params := by
  induction e using rec_args with
  | name s => rfl
  | param p => exact (List.flatMap_singleton (fun q ↦ (f q).params) p).symm
  | compound h args ih =>
    rw [substitute_compound, params, params, paramsAll_eq, paramsAll_eq, List.flatMap_map,
      List.flatMap_assoc]
    exact List.flatMap_congr ih

theorem params_rename (r : TypeParam → TypeParam) (e : TypeExpr) :
    (e.rename r).params = e.params.map r := by
  rw [rename, params_substitute, List.map_eq_flatMap]
  rfl

/-- A parameter occurs in an instance exactly when it occurs in the value of a parameter. -/
theorem mem_params_substitute :
    p ∈ (e.substitute f).params ↔ ∃ q ∈ e.params, p ∈ (f q).params := by
  rw [params_substitute, List.mem_flatMap]

/-- In a scope the identifiers stay what they were. -/
theorem params_inScope (scope : String) (e : TypeExpr) :
    (e.inScope scope).params = (e.params.map TypeParam.ident).map (TypeParam.mk scope) := by
  rw [inScope, params_substitute, List.map_map, List.map_eq_flatMap]
  rfl

/-- Where concrete types are put in for all parameters, a concrete type results. -/
theorem isConcrete_substitute (h : ∀ p ∈ e.params, (f p).isConcrete) :
    (e.substitute f).isConcrete := by
  rw [isConcrete_iff, List.eq_nil_iff_forall_not_mem]
  intro p hp
  obtain ⟨q, hq, hpq⟩ := mem_params_substitute.1 hp
  rw [isConcrete_iff.1 (h q hq)] at hpq
  exact List.not_mem_nil hpq

/-! ### How large an instance is -/

/-- The value of an occurring parameter is no larger than the instance. -/
theorem size_le_size_substitute (f : TypeParam → TypeExpr) (h : p ∈ e.params) :
    (f p).size ≤ (e.substitute f).size := by
  induction e using rec_args with
  | name s => simp [params] at h
  | param q =>
    rw [List.mem_singleton.1 h]
    exact Nat.le_refl _
  | compound hd args ih =>
    obtain ⟨a, ha, hp⟩ := mem_params_compound.1 h
    rw [substitute_compound]
    have hlt : (a.substitute f).size < (compound hd (args.map (substitute f))).size :=
      size_lt_of_mem (List.mem_map.2 ⟨a, ha, rfl⟩)
    exact Nat.le_of_lt (Nat.lt_of_le_of_lt (ih a ha hp) hlt)

/-- An argument has a smaller instance than the constructor around it. -/
theorem size_substitute_lt_of_mem (f : TypeParam → TypeExpr) {h : String} {args : List TypeExpr}
    {a : TypeExpr} (ha : a ∈ args) :
    (a.substitute f).size < ((compound h args).substitute f).size := by
  rw [substitute_compound]
  exact size_lt_of_mem (List.mem_map.2 ⟨a, ha, rfl⟩)

/-- A parameter has no instance in common with a type in which it strictly occurs. -/
theorem substitute_ne_of_mem_params (f : TypeParam → TypeExpr) (h : p ∈ e.params)
    (hne : e ≠ param p) : f p ≠ e.substitute f := by
  intro heq
  cases e with
  | name s => simp [params] at h
  | param q => exact hne (by rw [List.mem_singleton.1 h])
  | compound hd args =>
    obtain ⟨a, ha, hp⟩ := mem_params_compound.1 h
    have hle := size_le_size_substitute f hp
    have hlt := size_substitute_lt_of_mem f (h := hd) ha
    rw [heq] at hle
    omega

/-! ### Texts of instances -/

/-- A type has a text exactly when all its constructors have the arity that their text needs. -/
theorem isWritable_iff_exists_written : e.IsWritable ↔ ∃ t, e.written = .ok t := by
  refine ⟨IsWritable.exists_written, ?_⟩
  rintro ⟨t, ht⟩
  fun_induction written e generalizing t with
  | case1 s => exact .name s
  | case2 p => exact .param p
  | case3 head elem ih =>
    cases helem : elem.written with
    | error m => rw [helem] at ht; cases ht
    | ok t' => exact .unary head (ih t' helem)
  | case4 key value m hkey ih => cases ht
  | case5 key value k hkey ihk ihv =>
    cases hvalue : value.written with
    | error m => rw [hvalue] at ht; cases ht
    | ok v => exact .map (ihk k hkey) (ihv v hvalue)
  | case6 head key value hne => cases ht
  | case7 head args h₁ h₂ => cases ht

/-- Types with a text put into a type with a text give a type with a text. -/
theorem IsWritable.substitute (he : e.IsWritable) (hf : ∀ p ∈ e.params, (f p).IsWritable) :
    (e.substitute f).IsWritable := by
  induction he with
  | name s => exact .name s
  | param p => exact hf p (List.mem_singleton.2 rfl)
  | unary head _ ih =>
    refine .unary head (ih fun p hp ↦ hf p ?_)
    exact mem_params_compound.2 ⟨_, List.mem_singleton.2 rfl, hp⟩
  | map _ _ ihk ihv =>
    refine .map (ihk fun p hp ↦ hf p ?_) (ihv fun p hp ↦ hf p ?_)
    · exact mem_params_compound.2 ⟨_, List.mem_cons_self, hp⟩
    · exact mem_params_compound.2 ⟨_, List.mem_cons_of_mem _ (List.mem_singleton.2 rfl), hp⟩

/-- Where types are put into a type with a text, the text is missing only because it is missing for
one of them. -/
theorem IsWritable.exists_of_written_substitute {m : Malformed} (he : e.IsWritable)
    (h : (e.substitute f).written = .error m) : ∃ p ∈ e.params, (f p).written = .error m := by
  induction he with
  | name s => cases h
  | param p => exact ⟨p, List.mem_singleton.2 rfl, h⟩
  | @unary head elem _ ih =>
    rw [substitute_compound, List.map_singleton, written] at h
    cases helem : (elem.substitute f).written with
    | error m' =>
      rw [helem] at h
      obtain ⟨p, hp, hm⟩ := ih (helem.trans h)
      exact ⟨p, mem_params_compound.2 ⟨elem, List.mem_singleton.2 rfl, hp⟩, hm⟩
    | ok t => rw [helem] at h; cases h
  | @map key value _ _ ihk ihv =>
    rw [substitute_compound, List.map_cons, List.map_singleton, written, if_pos rfl] at h
    cases hkey : (key.substitute f).written with
    | error m' =>
      rw [hkey] at h
      obtain ⟨p, hp, hm⟩ := ihk (hkey.trans h)
      exact ⟨p, mem_params_compound.2 ⟨key, List.mem_cons_self, hp⟩, hm⟩
    | ok k =>
      rw [hkey] at h
      cases hvalue : (value.substitute f).written with
      | error m' =>
        rw [hvalue] at h
        obtain ⟨p, hp, hm⟩ := ihv (hvalue.trans h)
        exact ⟨p, mem_params_compound.2 ⟨value, List.mem_cons_of_mem _ List.mem_cons_self, hp⟩, hm⟩
      | ok v => rw [hvalue] at h; cases h

/-- The arguments of a type with a text have texts. -/
theorem IsWritable.of_mem {h : String} {args : List TypeExpr} {a : TypeExpr}
    (he : (compound h args).IsWritable) (ha : a ∈ args) : a.IsWritable := by
  cases he with
  | unary _ helem => rwa [List.mem_singleton.1 ha]
  | map hk hv =>
    rcases List.mem_cons.1 ha with rfl | ha
    · exact hk
    · rwa [List.mem_singleton.1 ha]

end TypeExpr

end ChannelGraph
