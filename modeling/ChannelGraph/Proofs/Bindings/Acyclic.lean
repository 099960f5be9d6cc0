import ChannelGraph.Bindings.Basic
import ChannelGraph.Proofs.TypeExpr.Substitution
import Mathlib.Logic.Relation

/-!
# Acyclic bindings

Bindings are acyclic if going from a parameter to those in its type comes to an end, whatever
way is taken (`Bindings.Acyclic`). On acyclic bindings nothing is left of the bookkeeping by
which `resolve` and `apply` guard against cycles: both succeed, and what they compute does not
depend on the parameters that may still be entered (`resolveWithin_of_covers`,
`applyWithin_of_covers`).

So the bindings have a meaning of their own, the substitution `Bindings.value`: to instantiate a
type is to substitute with it (`apply_eq`), it satisfies all bindings (`satisfiedBy_value`), and
every other substitution that does so factors through it (`substitute_value`). What follows from
the bindings is what holds under all substitutions that satisfy them (`Bindings.Entails`).

Binding one more parameter keeps bindings acyclic exactly because the parameter does not occur
in the instance of its type (`Acyclic.insert`).
-/

open Relation

namespace ChannelGraph

namespace Bindings

variable {m : Bindings} {p q : TypeParam} {e r : TypeExpr} {rest : List TypeParam}

/-! ### The order of the bindings -/

/-- The binding of one parameter mentions another one. -/
def Leads (m : Bindings) (p q : TypeParam) : Prop :=
  ∃ e, m.get? p = some e ∧ q ∈ e.params

/-- Every way from a parameter to the parameters in its type, and so on, ends. -/
def Acyclic (m : Bindings) : Prop :=
  WellFounded fun q p ↦ m.Leads p q

theorem acyclic_empty : (∅ : Bindings).Acyclic :=
  ⟨fun p ↦ ⟨p, fun _ ⟨_, h, _⟩ ↦ nomatch h⟩⟩

/-- No parameter leads back to itself. -/
theorem Acyclic.not_transGen (h : m.Acyclic) (p : TypeParam) : ¬TransGen m.Leads p p := by
  induction p using h.induction with
  | h p ih =>
    intro hp
    obtain ⟨q, hpq, hqp⟩ := TransGen.head'_iff.1 hp
    exact ih q hpq (TransGen.tail' hqp hpq)

/-- All bound parameters on the ways down from a type are in a list. -/
def Covers (m : Bindings) (rest : List TypeParam) (e : TypeExpr) : Prop :=
  ∀ p ∈ e.params, ∀ q, ReflTransGen m.Leads p q → q ∈ m → q ∈ rest

theorem covers_keys (m : Bindings) (e : TypeExpr) : m.Covers m.keys e :=
  fun _ _ _ _ hq ↦ hq

theorem Covers.mem (h : m.Covers rest (.param p)) (hp : m.get? p = some e) : p ∈ rest :=
  h p (List.mem_singleton.2 rfl) p ReflTransGen.refl (OrderedMap.mem_iff_exists.2 ⟨e, hp⟩)

/-- Behind a parameter of acyclic bindings the parameter itself is not needed any more. -/
theorem Covers.erase (hm : m.Acyclic) (h : m.Covers rest (.param p))
    (hr : ∀ q ∈ r.params, TransGen m.Leads p q) : m.Covers (rest.erase p) r := by
  intro q hq s hqs hs
  have hps : TransGen m.Leads p s := (hr q hq).trans_left hqs
  have hne : s ≠ p := by
    rintro rfl
    exact hm.not_transGen s hps
  refine (List.mem_erase_of_ne hne).2 ?_
  exact h p (List.mem_singleton.2 rfl) s hps.to_reflTransGen hs

/-! ### Following parameters -/

/-- One type is a bound parameter, and the other one is its binding. -/
def Binds (m : Bindings) (a b : TypeExpr) : Prop :=
  ∃ p, a = .param p ∧ m.get? p = some b

/-- A type that is no bound parameter. -/
def IsResolved (m : Bindings) (e : TypeExpr) : Prop :=
  ∀ p, e = .param p → m.get? p = none

/-- On every map, what is found is reached by bindings of parameters and is no bound parameter
itself. -/
theorem resolveWithin_eq_ok (h : m.resolveWithin rest e = .ok r) :
    ReflTransGen m.Binds e r ∧ m.IsResolved r := by
  fun_induction resolveWithin m rest e with
  | case1 rest p hp =>
    cases h
    refine ⟨ReflTransGen.refl, fun q hq ↦ ?_⟩
    cases hq
    exact hp
  | case2 rest p bound hp hmem ih =>
    obtain ⟨hfollow, hres⟩ := ih h
    exact ⟨ReflTransGen.head ⟨p, rfl, hp⟩ hfollow, hres⟩
  | case3 rest p bound hp hmem => cases h
  | case4 rest e hne =>
    cases h
    exact ⟨ReflTransGen.refl, fun p hp ↦ absurd hp (hne p)⟩

/-- A type that is found by following bindings is reached by them and is followed no further. -/
theorem resolve_eq_ok (h : m.resolve e = .ok r) :
    ReflTransGen m.Binds e r ∧ m.IsResolved r :=
  resolveWithin_eq_ok h

theorem resolveWithin_of_unbound (hp : m.get? p = none) :
    m.resolveWithin rest (.param p) = .ok (.param p) := by
  rw [resolveWithin, hp]

theorem resolveWithin_of_bound (hp : m.get? p = some e) (hmem : p ∈ rest) :
    m.resolveWithin rest (.param p) = m.resolveWithin (rest.erase p) e := by
  rw [resolveWithin, hp]
  exact if_pos hmem

theorem resolveWithin_of_ne_param (he : ∀ p, e ≠ .param p) : m.resolveWithin rest e = .ok e := by
  cases e with
  | name s => rw [resolveWithin]; simp
  | param p => exact absurd rfl (he p)
  | compound h args => rw [resolveWithin]; simp

/-- The type of a bound parameter is followed by the same rule, whatever may still be entered. -/
theorem resolveWithin_of_covers (hm : m.Acyclic) (h : m.Covers rest e) :
    m.resolveWithin rest e = m.resolve e := by
  cases e with
  | name s => rw [resolve, resolveWithin_of_ne_param, resolveWithin_of_ne_param] <;> simp
  | compound hd args => rw [resolve, resolveWithin_of_ne_param, resolveWithin_of_ne_param] <;> simp
  | param p =>
    induction p using hm.induction generalizing rest with
    | h p ih =>
      rw [resolve]
      cases hp : m.get? p with
      | none => rw [resolveWithin_of_unbound hp, resolveWithin_of_unbound hp]
      | some e =>
        -- what a bound parameter leads to does not lead back, so the parameter is not needed any
        -- more
        have hlead : ∀ q ∈ e.params, TransGen m.Leads p q :=
          fun q hq ↦ TransGen.single ⟨e, hp, hq⟩
        rw [resolveWithin_of_bound hp (h.mem hp),
          resolveWithin_of_bound hp ((covers_keys m _).mem hp)]
        have hrest := h.erase hm hlead
        have hkeys := (covers_keys m _).erase hm hlead
        cases e with
        | name s => rw [resolveWithin_of_ne_param, resolveWithin_of_ne_param] <;> simp
        | compound hd args => rw [resolveWithin_of_ne_param, resolveWithin_of_ne_param] <;> simp
        | param q =>
          have hpq : m.Leads p q := ⟨_, hp, List.mem_singleton.2 rfl⟩
          rw [ih q hpq hrest, ih q hpq hkeys]

/-- A bound parameter is resolved as its type is. -/
theorem resolve_of_bound (hm : m.Acyclic) (hp : m.get? p = some e) :
    m.resolve (.param p) = m.resolve e := by
  rw [resolve, resolveWithin_of_bound hp ((covers_keys m _).mem hp)]
  exact resolveWithin_of_covers hm ((covers_keys m _).erase hm
    fun q hq ↦ TransGen.single ⟨e, hp, hq⟩)

theorem resolve_of_ne_param (he : ∀ p, e ≠ .param p) : m.resolve e = .ok e :=
  resolveWithin_of_ne_param he

/-- On acyclic bindings every type is resolved. -/
theorem Acyclic.exists_resolve (hm : m.Acyclic) (e : TypeExpr) : ∃ r, m.resolve e = .ok r := by
  cases e with
  | name s => exact ⟨_, resolve_of_ne_param (by simp)⟩
  | compound h args => exact ⟨_, resolve_of_ne_param (by simp)⟩
  | param p =>
    induction p using hm.induction with
    | h p ih =>
      cases hp : m.get? p with
      | none => exact ⟨_, resolveWithin_of_unbound hp⟩
      | some e =>
        rw [resolve_of_bound hm hp]
        cases e with
        | name s => exact ⟨_, resolve_of_ne_param (by simp)⟩
        | compound h args => exact ⟨_, resolve_of_ne_param (by simp)⟩
        | param q => exact ih q ⟨_, hp, List.mem_singleton.2 rfl⟩

/-- What is found by following parameters mentions only parameters further down. -/
theorem leads_of_binds (h : ReflTransGen m.Binds e r) :
    ∀ q ∈ r.params, ∃ p ∈ e.params, ReflTransGen m.Leads p q := by
  induction h using ReflTransGen.head_induction_on with
  | refl => exact fun q hq ↦ ⟨q, hq, ReflTransGen.refl⟩
  | head hstep _ ih =>
    obtain ⟨p, rfl, hp⟩ := hstep
    intro q hq
    obtain ⟨s, hs, hsq⟩ := ih q hq
    exact ⟨p, List.mem_singleton.2 rfl, ReflTransGen.head ⟨_, hp, hs⟩ hsq⟩

/-- Behind a bound parameter only parameters strictly further down are left. -/
theorem transGen_of_resolve (hm : m.Acyclic) (hp : m.get? p = some e)
    (h : m.resolve (.param p) = .ok r) : ∀ q ∈ r.params, TransGen m.Leads p q := by
  intro q hq
  rw [resolve_of_bound hm hp] at h
  obtain ⟨s, hs, hsq⟩ := leads_of_binds (resolve_eq_ok h).1 q hq
  exact TransGen.head' ⟨e, hp, hs⟩ hsq

/-! ### The meaning of the bindings -/

/-- The type that the bindings give to a parameter, instantiated; a parameter without binding
stands for itself. -/
def value (m : Bindings) (p : TypeParam) : TypeExpr :=
  (m.apply (.param p)).toOption.getD (.param p)

private theorem applyAllWithin_of_forall {f : TypeParam → TypeExpr} {es : List TypeExpr}
    (h : ∀ e ∈ es, m.applyWithin rest e = .ok (e.substitute f)) :
    m.applyAllWithin rest es = .ok (es.map (TypeExpr.substitute f)) := by
  induction es with
  | nil => rw [applyAllWithin]; rfl
  | cons e es ih =>
    rw [applyAllWithin, h e List.mem_cons_self, ih fun e' he' ↦ h e' (List.mem_cons_of_mem _ he')]
    rfl

/-- What is computed for the parameters of a type is computed for the type. -/
private theorem applyWithin_of_params {f : TypeParam → TypeExpr}
    (h : ∀ p ∈ e.params, m.applyWithin rest (.param p) = .ok (f p)) :
    m.applyWithin rest e = .ok (e.substitute f) := by
  induction e using TypeExpr.rec_args with
  | name s => rw [applyWithin]; rfl
  | param p => exact h p (List.mem_singleton.2 rfl)
  | compound hd args ih =>
    have hargs : m.applyAllWithin rest args = .ok (args.map (TypeExpr.substitute f)) :=
      applyAllWithin_of_forall fun a ha ↦
        ih a ha fun p hp ↦ h p (TypeExpr.mem_params_compound.2 ⟨a, ha, hp⟩)
    rw [applyWithin, hargs, TypeExpr.substitute_compound]
    rfl

private theorem Covers.of_mem (h : m.Covers rest e) (hp : p ∈ e.params) :
    m.Covers rest (.param p) := by
  intro q hq
  rw [List.mem_singleton.1 hq]
  exact h p hp

theorem applyWithin_of_resolve_param (h : m.resolve (.param p) = .ok (.param q)) :
    m.applyWithin rest (.param p) = .ok (.param q) := by
  rw [applyWithin, h]

/-- One step of instantiation: the first type that is no parameter is instantiated. -/
theorem applyWithin_of_resolve (hp : p ∈ rest) (h : m.resolve (.param p) = .ok r)
    (hr : ∀ q, r ≠ .param q) :
    m.applyWithin rest (.param p) = m.applyWithin (rest.erase p) r := by
  rw [applyWithin, h]
  cases r with
  | param q => exact absurd rfl (hr q)
  | name s => exact if_pos hp
  | compound hd args => exact if_pos hp

/-- A parameter is instantiated with its value, whatever may still be entered. -/
theorem applyWithin_param_of_covers (hm : m.Acyclic) (h : m.Covers rest (.param p)) :
    m.applyWithin rest (.param p) = .ok (m.value p) := by
  -- the list of parameters that may be entered shrinks on the way down, so it is general here
  induction p using hm.transGen.induction generalizing rest with
  | h p ih =>
    obtain ⟨r, hr⟩ := hm.exists_resolve (.param p)
    have key : ∃ t, ∀ rest, m.Covers rest (.param p) → m.applyWithin rest (.param p) = .ok t := by
      cases hp : m.get? p with
      | none =>
        refine ⟨.param p, fun rest _ ↦ ?_⟩
        rw [resolve, resolveWithin_of_unbound hp] at hr
        cases hr
        exact applyWithin_of_resolve_param (resolveWithin_of_unbound hp)
      | some e =>
        have hlead := transGen_of_resolve hm hp hr
        have hsub : ∀ rest, m.Covers rest (.param p) →
            m.applyWithin (rest.erase p) r = .ok (r.substitute m.value) := by
          intro rest hrest
          have hcover := hrest.erase hm hlead
          exact applyWithin_of_params fun q hq ↦
            ih q (transGen_swap.2 (hlead q hq)) (hcover.of_mem hq)
        by_cases hparam : ∃ q, r = .param q
        · obtain ⟨q, rfl⟩ := hparam
          exact ⟨.param q, fun rest _ ↦ applyWithin_of_resolve_param hr⟩
        · have hne : ∀ q, r ≠ .param q := fun q hq ↦ hparam ⟨q, hq⟩
          refine ⟨r.substitute m.value, fun rest hrest ↦ ?_⟩
          rw [applyWithin_of_resolve (hrest.mem hp) hr hne, hsub rest hrest]
    obtain ⟨t, ht⟩ := key
    have hvalue : m.value p = t := by
      rw [value, apply, ht _ (covers_keys m _)]
      rfl
    rw [ht rest h, hvalue]

/-- On acyclic bindings instantiation is substitution, whatever may still be entered. -/
theorem applyWithin_of_covers (hm : m.Acyclic) (h : m.Covers rest e) :
    m.applyWithin rest e = .ok (e.substitute m.value) :=
  applyWithin_of_params fun _ hp ↦ applyWithin_param_of_covers hm (h.of_mem hp)

/-- On acyclic bindings every type is instantiated, by substituting the values of parameters. -/
theorem apply_eq (hm : m.Acyclic) (e : TypeExpr) : m.apply e = .ok (e.substitute m.value) :=
  applyWithin_of_covers hm (covers_keys m e)

theorem value_of_unbound (hp : m.get? p = none) : m.value p = .param p := by
  rw [value, apply, applyWithin_of_resolve_param (resolveWithin_of_unbound hp)]
  rfl

private theorem value_eq_of_resolve (hm : m.Acyclic) (h : m.resolve (.param p) = .ok r) :
    m.value p = r.substitute m.value := by
  have happly := apply_eq hm (.param p)
  cases hp : m.get? p with
  | none =>
    rw [resolve, resolveWithin_of_unbound hp] at h
    cases h
    rfl
  | some e =>
    by_cases hparam : ∃ q, r = .param q
    · obtain ⟨q, rfl⟩ := hparam
      have hq : m.value q = .param q := value_of_unbound ((resolve_eq_ok h).2 q rfl)
      rw [apply, applyWithin_of_resolve_param h] at happly
      exact (Except.ok.inj happly).symm.trans hq.symm
    · have hlead := transGen_of_resolve hm hp h
      have hcover := (covers_keys m _).erase hm hlead
      rw [apply, applyWithin_of_resolve ((covers_keys m _).mem hp) h fun q hq ↦ hparam ⟨q, hq⟩,
        applyWithin_of_covers hm hcover] at happly
      exact (Except.ok.inj happly).symm

/-- The value of a bound parameter is the instance of its type. -/
theorem value_of_bound (hm : m.Acyclic) (hp : m.get? p = some e) :
    m.value p = e.substitute m.value := by
  obtain ⟨r, hr⟩ := hm.exists_resolve (.param p)
  have hvalue := value_eq_of_resolve hm hr
  rw [resolve_of_bound hm hp] at hr
  cases e with
  | param q => rw [hvalue, ← value_eq_of_resolve hm hr]; rfl
  | name s =>
    rw [resolve_of_ne_param (by simp)] at hr
    rw [hvalue, Except.ok.inj hr]
  | compound hd args =>
    rw [resolve_of_ne_param (by simp)] at hr
    rw [hvalue, Except.ok.inj hr]

/-! ### Satisfying bindings -/

/-- A substitution gives every bound parameter what it gives the type of the parameter. -/
def SatisfiedBy (m : Bindings) (σ : TypeParam → TypeExpr) : Prop :=
  ∀ p e, m.get? p = some e → σ p = e.substitute σ

/-- Two types have the same instance under every substitution that satisfies the bindings. -/
def Entails (m : Bindings) (a b : TypeExpr) : Prop :=
  ∀ σ, m.SatisfiedBy σ → a.substitute σ = b.substitute σ

/-- Every binding of one map is one of another map. -/
def Extends (m' m : Bindings) : Prop :=
  ∀ p e, m.get? p = some e → m'.get? p = some e

theorem satisfiedBy_empty (σ : TypeParam → TypeExpr) : (∅ : Bindings).SatisfiedBy σ :=
  fun _ _ h ↦ nomatch h

/-- Acyclic bindings are satisfied by putting in what they lead to. -/
theorem satisfiedBy_value (hm : m.Acyclic) : m.SatisfiedBy m.value :=
  fun _ _ hp ↦ value_of_bound hm hp

/-- A substitution that satisfies the bindings factors through their values. -/
theorem substitute_value (hm : m.Acyclic) {σ : TypeParam → TypeExpr} (hσ : m.SatisfiedBy σ)
    (p : TypeParam) : (m.value p).substitute σ = σ p := by
  induction p using hm.induction with
  | h p ih =>
    cases hp : m.get? p with
    | none => rw [value_of_unbound hp]; rfl
    | some e =>
      rw [value_of_bound hm hp, TypeExpr.substitute_substitute, hσ p e hp]
      exact TypeExpr.substitute_congr fun q hq ↦ ih q ⟨e, hp, hq⟩

/-- Only parameters without binding occur in a value. -/
theorem get?_of_mem_params_value (hm : m.Acyclic) (h : q ∈ (m.value p).params) :
    m.get? q = none := by
  induction p using hm.induction with
  | h p ih =>
    cases hp : m.get? p with
    | none =>
      rw [value_of_unbound hp] at h
      rwa [List.mem_singleton.1 h]
    | some e =>
      rw [value_of_bound hm hp] at h
      obtain ⟨s, hs, hqs⟩ := TypeExpr.mem_params_substitute.1 h
      exact ih s ⟨e, hp, hs⟩ hqs

/-- No bound parameter occurs in an instance. -/
theorem not_mem_of_mem_params_instance (hm : m.Acyclic)
    (h : q ∈ (e.substitute m.value).params) : q ∉ m := by
  obtain ⟨p, -, hq⟩ := TypeExpr.mem_params_substitute.1 h
  exact OrderedMap.get?_eq_none_iff.1 (get?_of_mem_params_value hm hq)

/-- Instantiating a type leaves it as it is exactly if no bound parameter occurs in it. -/
theorem substitute_value_eq_iff (hm : m.Acyclic) :
    e.substitute m.value = e ↔ ∀ p ∈ e.params, p ∉ m := by
  constructor
  · intro heq p hp
    rw [← heq] at hp
    exact not_mem_of_mem_params_instance hm hp
  · intro h
    have hid : ∀ p ∈ e.params, m.value p = .param p :=
      fun p hp ↦ value_of_unbound (OrderedMap.get?_eq_none_iff.2 (h p hp))
    rw [TypeExpr.substitute_congr hid, TypeExpr.substitute_param]

/-- On acyclic bindings it is found whether instantiating a type changes it, and into what. -/
theorem refine?_eq (hm : m.Acyclic) (e : TypeExpr) :
    m.refine? e =
      .ok (if e.substitute m.value = e then none else some (e.substitute m.value)) := by
  rw [refine?, apply_eq hm]
  rfl

/-- Instantiating a type in place gives its instance. -/
theorem exists_refine?_eq (hm : m.Acyclic) (e : TypeExpr) :
    ∃ refined, m.refine? e = .ok refined ∧ refined.getD e = e.substitute m.value := by
  refine ⟨_, refine?_eq hm e, ?_⟩
  split
  · rename_i heq
    exact heq.symm
  · rfl

namespace Entails

variable {a b c : TypeExpr} {m' : Bindings}

theorem refl (m : Bindings) (a : TypeExpr) : m.Entails a a :=
  fun _ _ ↦ rfl

theorem symm (h : m.Entails a b) : m.Entails b a :=
  fun σ hσ ↦ (h σ hσ).symm

theorem trans (hab : m.Entails a b) (hbc : m.Entails b c) : m.Entails a c :=
  fun σ hσ ↦ (hab σ hσ).trans (hbc σ hσ)

end Entails

theorem Extends.refl (m : Bindings) : m.Extends m :=
  fun _ _ h ↦ h

theorem Extends.trans {m₁ m₂ m₃ : Bindings} (h₂ : m₃.Extends m₂) (h₁ : m₂.Extends m₁) :
    m₃.Extends m₁ :=
  fun p e hp ↦ h₂ p e (h₁ p e hp)

/-- What satisfies more bindings satisfies fewer. -/
theorem Extends.satisfiedBy {m' : Bindings} (h : m'.Extends m) {σ : TypeParam → TypeExpr}
    (hσ : m'.SatisfiedBy σ) : m.SatisfiedBy σ :=
  fun p e hp ↦ hσ p e (h p e hp)

/-- More bindings entail more. -/
theorem Entails.mono {m' : Bindings} {a b : TypeExpr} (h : m.Entails a b) (hm : m'.Extends m) :
    m'.Entails a b :=
  fun σ hσ ↦ h σ (hm.satisfiedBy hσ)

/-- Every type equals its instance under the bindings. -/
theorem entails_substitute_value (hm : m.Acyclic) (e : TypeExpr) :
    m.Entails (e.substitute m.value) e := by
  intro σ hσ
  rw [TypeExpr.substitute_substitute]
  exact TypeExpr.substitute_congr fun p _ ↦ substitute_value hm hσ p

/-- What the bindings entail can be read off the values alone. -/
theorem entails_iff (hm : m.Acyclic) {a b : TypeExpr} :
    m.Entails a b ↔ a.substitute m.value = b.substitute m.value := by
  refine ⟨fun h ↦ h _ (satisfiedBy_value hm), fun h ↦ ?_⟩
  have ha := (entails_substitute_value hm a).symm
  rw [h] at ha
  exact ha.trans (entails_substitute_value hm b)

/-- Following bound parameters keeps the meaning. -/
theorem entails_of_resolve (h : m.resolve e = .ok r) : m.Entails e r := by
  intro σ hσ
  have hfollow := (resolve_eq_ok h).1
  clear h
  induction hfollow using ReflTransGen.head_induction_on with
  | refl => rfl
  | head hstep _ ih =>
    obtain ⟨p, rfl, hp⟩ := hstep
    exact (hσ p _ hp).trans ih

/-! ### One more binding -/

/-- A parameter without binding to which a parameter leads occurs in the value of the latter. -/
theorem mem_params_value_of_leads (hm : m.Acyclic) (hp : m.get? p = none)
    (h : ReflTransGen m.Leads q p) : p ∈ (m.value q).params := by
  induction h using ReflTransGen.head_induction_on with
  | refl =>
    rw [value_of_unbound hp]
    exact List.mem_singleton.2 rfl
  | head hstep _ ih =>
    obtain ⟨e, he, hs⟩ := hstep
    rw [value_of_bound hm he]
    exact TypeExpr.mem_params_substitute.2 ⟨_, hs, ih⟩

/-- A new binding leads to the parameters of its type, and the others lead where they did. -/
theorem leads_insert {s : TypeParam} :
    Leads (m.insert p e) q s ↔ (q = p ∧ s ∈ e.params) ∨ (q ≠ p ∧ m.Leads q s) := by
  by_cases h : q = p
  · subst h
    simp [Leads]
  · simp [Leads, OrderedMap.get?_insert_of_ne _ _ h, h]

/-- Binding a parameter that does not occur in the instance of its new type makes no cycle. -/
theorem Acyclic.insert (hm : m.Acyclic) (hp : m.get? p = none)
    (ho : p ∉ (e.substitute m.value).params) : Acyclic (OrderedMap.insert m p e) := by
  -- what does not lead to the new parameter leads where it did
  have haway : ∀ q, ¬ReflTransGen m.Leads q p →
      Acc (fun s q ↦ Leads (OrderedMap.insert m p e) q s) q := by
    intro q
    induction q using hm.induction with
    | h q ih =>
      intro hq
      refine ⟨_, fun s hs ↦ ?_⟩
      rcases leads_insert.1 hs with ⟨rfl, -⟩ | ⟨-, hs⟩
      · exact absurd ReflTransGen.refl hq
      · exact ih s hs fun hsp ↦ hq (ReflTransGen.head hs hsp)
  -- the new type does not lead back to the parameter, or this would occur in its instance
  have hacc : Acc (fun s q ↦ Leads (OrderedMap.insert m p e) q s) p := by
    refine ⟨_, fun s hs ↦ ?_⟩
    rcases leads_insert.1 hs with ⟨-, hs⟩ | ⟨hne, -⟩
    · refine haway s fun hsp ↦ ho ?_
      exact TypeExpr.mem_params_substitute.2 ⟨s, hs, mem_params_value_of_leads hm hp hsp⟩
    · exact absurd rfl hne
  refine ⟨fun q ↦ ?_⟩
  induction q using hm.induction with
  | h q ih =>
    refine ⟨_, fun s hs ↦ ?_⟩
    rcases leads_insert.1 hs with ⟨rfl, -⟩ | ⟨-, hs⟩
    · exact hacc.inv ‹_›
    · exact ih s hs

/-- Binding a parameter that is not bound keeps the old bindings. -/
theorem extends_insert (hp : m.get? p = none) : Extends (OrderedMap.insert m p e) m := by
  intro q t hq
  have hne : q ≠ p := by
    rintro rfl
    rw [hp] at hq
    cases hq
  rw [OrderedMap.get?_insert_of_ne _ _ hne, hq]

/-- A new binding is satisfied exactly if it holds and the old ones are satisfied. -/
theorem satisfiedBy_insert (hp : m.get? p = none) {σ : TypeParam → TypeExpr} :
    SatisfiedBy (OrderedMap.insert m p e) σ ↔ m.SatisfiedBy σ ∧ σ p = e.substitute σ := by
  constructor
  · intro h
    exact ⟨(extends_insert hp).satisfiedBy h, h p e (OrderedMap.get?_insert_self ..)⟩
  · rintro ⟨h, hpe⟩ q t hq
    rw [OrderedMap.get?_insert] at hq
    split at hq
    · rename_i hqp
      rw [hqp, hpe, Option.some.inj hq]
    · exact h q t hq

end Bindings

end ChannelGraph
