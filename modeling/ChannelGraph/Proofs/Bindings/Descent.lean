import ChannelGraph.Proofs.Bindings.Solving
import Mathlib.Data.List.Perm.Subperm

/-!
# How deep unification descends

`Bindings.unify` counts the levels of its descent against a bound. On acyclic bindings the bound
is never met, so it follows the rules of `Bindings.Solves` (`solves_unify`).

All types that are met are subtypes of the two types and of the types bound at the start
(`TypeExpr.subtypes`); this pool of types does not grow, although the bindings do. Whenever the
descent enters a constructor, the type it goes on with has smaller instances than the constructor
under every substitution that satisfies the bindings. So no constructor is entered twice on one
way down (`Way`), and there are no more levels than types in the pool.
-/

namespace ChannelGraph

namespace TypeExpr

/-! ### Subtypes -/

mutual

/-- A type with all types that occur in it, repetitions included. -/
def subtypes : TypeExpr → List TypeExpr
  | name s => [name s]
  | param p => [param p]
  | compound h args => compound h args :: subtypesAll args

/-- The subtypes of several types, one type after the other. -/
def subtypesAll : List TypeExpr → List TypeExpr
  | [] => []
  | e :: es => subtypes e ++ subtypesAll es

end

theorem subtypesAll_eq (es : List TypeExpr) : subtypesAll es = es.flatMap subtypes := by
  induction es with
  | nil => rfl
  | cons e es ih => rw [subtypesAll, ih, List.flatMap_cons]

theorem length_subtypesAll_of_forall {es : List TypeExpr}
    (h : ∀ e ∈ es, (subtypes e).length = e.size) : (subtypesAll es).length = sizeAll es := by
  induction es with
  | nil => rfl
  | cons e es ih =>
    obtain ⟨he, hes⟩ := List.forall_mem_cons.1 h
    rw [subtypesAll, List.length_append, he, ih hes, sizeAll]

/-- A type has as many subtypes as its size says, itself included. -/
theorem length_subtypes (e : TypeExpr) : (subtypes e).length = e.size := by
  induction e using rec_args with
  | name s => rfl
  | param p => rfl
  | compound h args ih =>
    rw [subtypes, List.length_cons, length_subtypesAll_of_forall ih, size, Nat.add_comm]

theorem length_subtypesAll (es : List TypeExpr) : (subtypesAll es).length = sizeAll es :=
  length_subtypesAll_of_forall fun e _ ↦ length_subtypes e

theorem mem_subtypes_self (e : TypeExpr) : e ∈ subtypes e := by
  cases e <;> exact List.mem_cons_self

theorem mem_subtypesAll {es : List TypeExpr} {e : TypeExpr} (h : e ∈ es) : e ∈ subtypesAll es := by
  rw [subtypesAll_eq]
  exact List.mem_flatMap.2 ⟨e, h, mem_subtypes_self e⟩

/-- The arguments of a subtype are subtypes. -/
theorem hereditary_mem_subtypes (e : TypeExpr) : Hereditary (· ∈ subtypes e) := by
  induction e using rec_args with
  | name s => intro h args hmem; cases List.mem_singleton.1 hmem
  | param p => intro h args hmem; cases List.mem_singleton.1 hmem
  | compound hd es ih =>
    intro h args hmem a ha
    rw [subtypes, List.mem_cons, subtypesAll_eq] at hmem ⊢
    rcases hmem with heq | hmem
    · injection heq with _ hargs
      exact .inr (List.mem_flatMap.2 ⟨a, hargs ▸ ha, mem_subtypes_self a⟩)
    · obtain ⟨e, he, hsub⟩ := List.mem_flatMap.1 hmem
      exact .inr (List.mem_flatMap.2 ⟨e, he, ih e he h args hsub a ha⟩)

/-- The arguments of a subtype are subtypes. -/
theorem hereditary_mem_subtypesAll (es : List TypeExpr) : Hereditary (· ∈ subtypesAll es) := by
  intro h args hmem a ha
  rw [subtypesAll_eq] at hmem ⊢
  obtain ⟨e, he, hsub⟩ := List.mem_flatMap.1 hmem
  exact List.mem_flatMap.2 ⟨e, he, hereditary_mem_subtypes e h args hsub a ha⟩

end TypeExpr

namespace Bindings

variable {m m' : Bindings} {l r a b t : TypeExpr} {p : TypeParam}
variable {pool way : List TypeExpr}

/-! ### Ways down -/

/-- The constructors that were entered on the way down to a type: each once, all of the pool,
and each with larger instances than the type, whatever satisfies the bindings. -/
structure Way (m : Bindings) (pool way : List TypeExpr) (l : TypeExpr) : Prop where
  /-- No constructor was entered twice. -/
  nodup : way.Nodup
  /-- All of them are in the pool. -/
  subset : way ⊆ pool
  /-- The type is below all of them. -/
  below : ∀ c ∈ way, ∀ σ, m.SatisfiedBy σ → (l.substitute σ).size < (c.substitute σ).size

theorem Way.nil (m : Bindings) (pool : List TypeExpr) (l : TypeExpr) :
    Way m pool [] l :=
  ⟨List.nodup_nil, List.nil_subset _, fun _ h ↦ nomatch h⟩

/-- More bindings leave a way as it is. -/
theorem Way.mono (h : Way m pool way l) (hm : m'.Extends m) : Way m' pool way l :=
  ⟨h.nodup, h.subset, fun c hc σ hσ ↦ h.below c hc σ (hm.satisfiedBy hσ)⟩

/-- A way that does not repeat itself is no longer than there are types. -/
theorem Way.length_le (h : Way m pool way l) : way.length ≤ pool.length :=
  (h.nodup.subperm h.subset).length_le

/-- An argument of the constructor that a type resolves to is one step further down. -/
theorem Way.cons {h : String} {args : List TypeExpr} (hway : Way m pool way l)
    (hm : m.Acyclic) (hl : m.resolve l = .ok (.compound h args))
    (hmem : TypeExpr.compound h args ∈ pool) (ha : a ∈ args) :
    Way m pool (.compound h args :: way) a := by
  have hnew : TypeExpr.compound h args ∉ way := by
    intro hold
    have hbelow := hway.below _ hold _ (satisfiedBy_value hm)
    rw [entails_of_resolve hl _ (satisfiedBy_value hm)] at hbelow
    exact Nat.lt_irrefl _ hbelow
  refine ⟨List.nodup_cons.2 ⟨hnew, hway.nodup⟩, List.cons_subset.2 ⟨hmem, hway.subset⟩, ?_⟩
  intro c hc σ hσ
  have harg := TypeExpr.size_substitute_lt_of_mem σ (h := h) ha
  rcases List.mem_cons.1 hc with rfl | hc
  · exact harg
  · have hbelow := hway.below c hc σ hσ
    rw [entails_of_resolve hl σ hσ] at hbelow
    exact Nat.lt_trans harg hbelow

/-! ### The code follows the rules -/

/-- Binding a parameter follows the rules for a parameter on one side. -/
theorem solves_bind (hm : m.Acyclic) (hl : m.resolve l = .ok a) (hr : m.resolve r = .ok b)
    (side : Orients a b p t) : Solves m [(l, r)] (m.bind p t) := by
  unfold bind
  split
  · rename_i q
    have hq : m.get? q = none := by
      cases side with
      | left h => exact (resolve_eq_ok hr).2 q rfl
      | right h => exact absurd rfl (h q)
    -- a parameter is not bound to itself, since the sides differ
    have hne : p ≠ q := by
      rintro rfl
      cases side with
      | left h => exact h rfl
      | right h => exact h p rfl
    have hp : p ∉ ((TypeExpr.param q).substitute m.value).params := by
      rw [show (TypeExpr.param q).substitute m.value = .param q from value_of_unbound hq]
      exact fun hmem ↦ hne (List.mem_singleton.1 hmem)
    exact .bind hl hr side hp (.param q) (.done _)
  · rename_i ht
    rw [apply_eq hm]
    dsimp only
    split
    · rename_i hp
      exact .occurs hl hr side ht hp
    · rename_i hp
      cases htext : t.written with
      | error f => exact .textless hl hr side hp htext
      | ok text =>
        exact .bind hl hr side hp (TypeExpr.isWritable_iff_exists_written.2 ⟨text, htext⟩) (.done _)

/-- Equations solved one after the other, as long as each is solved by the rules from bindings
that have a property which solving keeps. -/
theorem solves_foldlM {K : Bindings → Prop} {eqs : List Equation}
    {step : Bindings → Equation → Except (Interrupted UnifyFault Bindings) Bindings}
    (hstep : ∀ m, K m → ∀ eq ∈ eqs, Solves m [eq] (step m eq))
    (hkeep : ∀ m, K m → ∀ eq ∈ eqs, ∀ m', Solves m [eq] (.ok m') → K m') (hm : K m) :
    Solves m eqs (eqs.foldlM step m) := by
  induction eqs generalizing m with
  | nil => exact .done m
  | cons eq eqs ih =>
    have hfirst := hstep m hm eq List.mem_cons_self
    rw [List.foldlM_cons]
    cases hout : step m eq with
    | error i =>
      rw [hout] at hfirst
      exact hfirst.append_error eqs
    | ok m' =>
      rw [hout] at hfirst
      have hrest := ih (fun m hm eq' heq' ↦ hstep m hm eq' (List.mem_cons_of_mem _ heq'))
        (fun m hm eq' heq' ↦ hkeep m hm eq' (List.mem_cons_of_mem _ heq'))
        (hkeep m hm eq List.mem_cons_self m' hfirst)
      exact hfirst.append hrest

/-- Arguments in the pool are unified one after the other: between them the bindings grow, but
inside of the pool. -/
theorem solves_args (hpool : TypeExpr.Hereditary (· ∈ pool)) (hm : m.Acyclic)
    (hclosed : m.ClosedUnder (· ∈ pool)) {as bs : List TypeExpr} (has : ∀ a ∈ as, a ∈ pool)
    (hbs : ∀ b ∈ bs, b ∈ pool)
    {step : Bindings → Equation → Except (Interrupted UnifyFault Bindings) Bindings}
    (hstep : ∀ m' : Bindings, m'.Acyclic → m'.ClosedUnder (· ∈ pool) → m'.Extends m →
      ∀ x y, x ∈ as → y ∈ bs → Solves m' [(x, y)] (step m' (x, y))) :
    Solves m (as.zip bs) ((as.zip bs).foldlM step m) := by
  refine solves_foldlM (K := fun m' ↦ m'.Acyclic ∧ m'.ClosedUnder (· ∈ pool) ∧ m'.Extends m)
    ?_ ?_ ⟨hm, hclosed, Extends.refl m⟩
  · rintro m' ⟨hm', hclosed', hext⟩ ⟨x, y⟩ hxy
    obtain ⟨hx, hy⟩ := List.of_mem_zip hxy
    exact hstep m' hm' hclosed' hext x y hx hy
  · rintro m' ⟨hm', hclosed', hext⟩ ⟨x, y⟩ hxy m'' hsolves
    obtain ⟨hx, hy⟩ := List.of_mem_zip hxy
    have hsides : ∀ eq ∈ [(x, y)], eq.1 ∈ pool ∧ eq.2 ∈ pool :=
      List.forall_mem_singleton.2 ⟨has x hx, hbs y hy⟩
    exact ⟨hsolves.acyclic hm', (hsolves.closedUnder hpool hclosed' hsides).1,
      hsolves.extends.trans hext⟩

/-- With more levels left than constructors that can still be entered, unification follows the
rules. -/
theorem solves_unifyWithin (hpool : TypeExpr.Hereditary (· ∈ pool)) (levels : Nat)
    (hm : m.Acyclic) (hclosed : m.ClosedUnder (· ∈ pool)) (hl : l ∈ pool)
    (hr : r ∈ pool) (hway : Way m pool way l)
    (hlevels : pool.length < levels + way.length) :
    Solves m [(l, r)] (unifyWithin levels m l r) := by
  induction levels generalizing m l r way with
  | zero =>
    have := hway.length_le
    omega
  | succ levels ih =>
    obtain ⟨a, ha⟩ := hm.exists_resolve l
    obtain ⟨b, hb⟩ := hm.exists_resolve r
    rw [unifyWithin, ha, hb]
    dsimp only
    split
    · rename_i hab
      subst hab
      exact .drop ha hb (.done m)
    · rename_i hab
      cases a with
      | param p => exact solves_bind hm ha hb (.left fun h ↦ hab h.symm)
      | name s =>
        cases b with
        | param q => exact solves_bind hm ha hb (.right (by simp))
        | name s' => exact .clash ha hb (.names fun h ↦ hab (h ▸ rfl))
        | compound k bs => exact .clash ha hb (.nameLeft s k bs)
      | compound h as =>
        cases b with
        | param q => exact solves_bind hm ha hb (.right (by simp))
        | name s => exact .clash ha hb (.nameRight h as s)
        | compound k bs =>
          dsimp only
          split
          · rename_i hsame
            obtain ⟨rfl, hlen⟩ := hsame
            have has := hclosed.resolve ha hl
            have hbs := hclosed.resolve hb hr
            refine .split ha hb hlen ?_
            rw [List.append_nil]
            -- a type is not entered inside itself, so the way to the arguments is longer by one
            refine solves_args hpool hm hclosed (hpool h as has) (hpool h bs hbs) ?_
            intro m' hm' hclosed' hext x y hx hy
            refine ih hm' hclosed' (hpool h as has x hx) (hpool h bs hbs y hy)
              ((hway.cons hm ha has hx).mono hext) ?_
            rw [List.length_cons]
            omega
          · rename_i hdiffer
            exact .clash ha hb (.compounds hdiffer)

/-- The parts of two types and of all bound types make a pool that unifying the two types does not
leave. -/
theorem exists_pool (m : Bindings) (l r : TypeExpr) :
    ∃ pool : List TypeExpr, TypeExpr.Hereditary (· ∈ pool) ∧ m.ClosedUnder (· ∈ pool) ∧
      l ∈ pool ∧ r ∈ pool ∧ pool.length = TypeExpr.sizeAll (l :: r :: m.values) := by
  have hmem : ∀ {e}, e ∈ l :: r :: m.values →
      e ∈ TypeExpr.subtypesAll (l :: r :: m.values) := TypeExpr.mem_subtypesAll
  refine ⟨_, TypeExpr.hereditary_mem_subtypesAll (l :: r :: m.values), fun p e hp _ ↦ ?_,
    hmem List.mem_cons_self, hmem (List.mem_cons_of_mem _ List.mem_cons_self),
    TypeExpr.length_subtypesAll _⟩
  have hvalue : e ∈ m.values := List.mem_map.2 ⟨_, OrderedMap.get?_eq_some_iff.1 hp, rfl⟩
  exact hmem (List.mem_cons_of_mem _ (List.mem_cons_of_mem _ hvalue))

/-- On acyclic bindings unification follows the rules to their end. -/
theorem solves_unify (hm : m.Acyclic) (l r : TypeExpr) : Solves m [(l, r)] (m.unify l r) := by
  obtain ⟨pool, hpool, hclosed, hl, hr, hlength⟩ := exists_pool m l r
  refine solves_unifyWithin hpool _ hm hclosed hl hr (Way.nil m pool l) ?_
  rw [hlength, TypeExpr.sizeAll, TypeExpr.sizeAll, descentBound, List.length_nil]
  have hsquare := Nat.le_mul_self (TypeExpr.sizeAll m.values + l.size + r.size + 1)
  omega

end Bindings

end ChannelGraph
