import ChannelGraph.Proofs.Bindings.Descent

/-!
# Most general unification

On acyclic bindings a unification that succeeds adds exactly what makes its two types equal
(`Acyclic.mostGeneral`), for parameters in the old instances of the types only
(`mem_params_of_unify`), and nothing if they are equal already (`Acyclic.unify_eq_of_entails`). If
it stops at types that have texts, nothing makes the two types equal (`Acyclic.unify_error`).
-/

namespace ChannelGraph

namespace Bindings

variable {m m' : Bindings} {l r : TypeExpr}

/-- Some bindings make two types equal, and are as general as bindings that extend the old ones
can be. -/
structure MostGeneral (m : Bindings) (l r : TypeExpr) (m' : Bindings) : Prop where
  /-- Both types have the same instance. -/
  equal : ∃ t, m'.apply l = .ok t ∧ m'.apply r = .ok t
  /-- The old bindings are there unchanged. -/
  extends_old : m'.Extends m
  /-- Only parameters were bound that had no binding and occur in an old instance of the types. -/
  fresh : ∀ p ∈ m', p ∉ m → ∃ t, (m.apply l = .ok t ∨ m.apply r = .ok t) ∧ p ∈ t.params
  /-- What satisfies the old bindings and makes the types equal satisfies the new bindings. -/
  general : ∀ σ, m.SatisfiedBy σ → l.substitute σ = r.substitute σ → m'.SatisfiedBy σ

/-- New bindings concern the parameters in the old instances of the types only. -/
theorem mem_params_of_unify (hm : m.Acyclic) {p : TypeParam} (hp : m.get? p = none)
    (hmem : p ∈ stateAfter (m.unify l r)) :
    p ∈ (l.substitute m.value).params ∨ p ∈ (r.substitute m.value).params := by
  -- the types all of whose old instances stay inside of those of the two types
  let Inside (e : TypeExpr) : Prop := ∀ q ∈ e.params, ∀ s ∈ (m.value q).params,
    s ∈ (l.substitute m.value).params ∨ s ∈ (r.substitute m.value).params
  have hInside : TypeExpr.Hereditary Inside := fun h args hargs a ha q hq ↦
    hargs q (TypeExpr.mem_params_compound.2 ⟨a, ha, hq⟩)
  have hclosed : m.ClosedUnder Inside := by
    intro q e hq hinside s hs x hx
    refine hinside q (List.mem_singleton.2 rfl) x ?_
    rw [value_of_bound hm hq]
    exact TypeExpr.mem_params_substitute.2 ⟨s, hs, hx⟩
  have hl : Inside l := fun q hq s hs ↦ .inl (TypeExpr.mem_params_substitute.2 ⟨q, hq, hs⟩)
  have hr : Inside r := fun q hq s hs ↦ .inr (TypeExpr.mem_params_substitute.2 ⟨q, hq, hs⟩)
  have hsides : ∀ eq ∈ [(l, r)], Inside eq.1 ∧ Inside eq.2 :=
    List.forall_mem_singleton.2 ⟨hl, hr⟩
  have hnew := ((solves_unify hm l r).closedUnder hInside hclosed hsides).2 p hp hmem
  refine hnew p (List.mem_singleton.2 rfl) p ?_
  rw [value_of_unbound hp]
  exact List.mem_singleton.2 rfl

theorem unifies_singleton {σ : TypeParam → TypeExpr} :
    Unifies σ [(l, r)] ↔ l.substitute σ = r.substitute σ :=
  List.forall_mem_singleton

/-- A unification that succeeds on acyclic bindings makes its types equal in the most general
way. -/
theorem Acyclic.mostGeneral (hm : m.Acyclic) (h : m.unify l r = .ok m') :
    MostGeneral m l r m' := by
  have hsolves := solves_unify hm l r
  rw [h] at hsolves
  have hm' : m'.Acyclic := hsolves.acyclic hm
  refine ⟨?_, hsolves.extends, fun p hp hnew ↦ ?_, fun σ hσ heq ↦ ?_⟩
  · refine ⟨l.substitute m'.value, apply_eq hm' l, ?_⟩
    rw [unifies_singleton.1 (hsolves.unifies (satisfiedBy_value hm'))]
    exact apply_eq hm' r
  · have hp' : p ∈ stateAfter (m.unify l r) := by
      rw [h]
      exact hp
    rcases mem_params_of_unify hm (OrderedMap.get?_eq_none_iff.2 hnew) hp' with hmem | hmem
    · exact ⟨_, .inl (apply_eq hm l), hmem⟩
    · exact ⟨_, .inr (apply_eq hm r), hmem⟩
  · exact hsolves.satisfiedBy hσ (unifies_singleton.2 heq)

/-- After a unification the bindings entail that its types are equal. -/
theorem Acyclic.entails_of_unify (hm : m.Acyclic) (h : m.unify l r = .ok m') :
    m'.Entails l r := by
  intro σ hσ
  have hsolves := solves_unify hm l r
  rw [h] at hsolves
  exact unifies_singleton.1 (hsolves.unifies hσ)

/-- A unification of types that are equal already under the bindings changes nothing. -/
theorem Acyclic.unify_eq_of_entails (hm : m.Acyclic) (h : m.Entails l r) : m.unify l r = .ok m :=
  (solves_unify hm l r).eq_ok hm fun σ hσ ↦ unifies_singleton.2 (h σ hσ)

/-- A unification of types that have texts stops at a conflict only, and then nothing that
satisfies the bindings makes the types equal. -/
theorem Acyclic.unify_error (hm : m.Acyclic) (hw : m.Writable) (hl : l.IsWritable)
    (hr : r.IsWritable) {i : Interrupted UnifyFault Bindings} (h : m.unify l r = .error i) :
    (∃ c message, i.cause = .conflict c message) ∧
      ∀ σ, m.SatisfiedBy σ → l.substitute σ ≠ r.substitute σ := by
  have hsolves := solves_unify hm l r
  rw [h] at hsolves
  have hsides : ∀ eq ∈ [(l, r)], eq.1.IsWritable ∧ eq.2.IsWritable :=
    List.forall_mem_singleton.2 ⟨hl, hr⟩
  obtain ⟨c, message, hcause⟩ := hsolves.exists_conflict hw hsides
  refine ⟨⟨c, message, hcause⟩, fun σ hσ heq ↦ ?_⟩
  obtain ⟨cause, reached⟩ := i
  subst hcause
  exact hsolves.not_unifies hm hσ (unifies_singleton.2 heq)

end Bindings

end ChannelGraph
