import ChannelGraph.Proofs.Bindings.Reachable

/-!
# Unifications one after another

Bindings are built up by unifications of arbitrary types, some of which stop part way: at a conflict
or at a type without text. Whatever is unified, and wherever it stops, the bindings never lead back
to themselves, so to follow and to instantiate always comes to an end, and after a type is
instantiated once nothing is left to do (`unifyEach_followable`).

All of it is read off the rules of `ChannelGraph.Proofs.Bindings.Solving`: every rule that binds a
parameter keeps the bindings acyclic, so a run that is cut short is no different from one that comes
to its end.
-/

open Relation

namespace ChannelGraph

/-- What a conflict is reported as: itself, or a side that has no text. -/
theorem UnifyFault.ofConflict_cases (c : Conflict) :
    (∃ message, UnifyFault.ofConflict c = .conflict c message) ∨
      ∃ f, UnifyFault.ofConflict c = .malformed f := by
  unfold UnifyFault.ofConflict
  cases c.message with
  | error f => exact .inr ⟨f, rfl⟩
  | ok message => exact .inl ⟨message, rfl⟩

namespace Bindings

variable {m : Bindings} {l r : TypeExpr} {eqs : List Equation}

/-- A run stops at a conflict or at a type without text only, whatever its types are. -/
theorem Solves.cause_cases {i : Interrupted UnifyFault Bindings} (h : Solves m eqs (.error i)) :
    (∃ c message, i.cause = .conflict c message) ∨ ∃ f, i.cause = .malformed f := by
  have hconflict (c : Conflict) (m' : Bindings)
      (hi : (⟨.ofConflict c, m'⟩ : Interrupted UnifyFault Bindings) = i) :
      (∃ c message, i.cause = .conflict c message) ∨ ∃ f, i.cause = .malformed f := by
    subst hi
    exact (UnifyFault.ofConflict_cases c).imp_left fun ⟨message, hmessage⟩ ↦ ⟨c, message, hmessage⟩
  -- the last three rules end a run, the others pass on how the rest of it ends
  generalize hout : Except.error i = out at h
  induction h with
  | done => cases hout
  | drop _ _ _ ih => exact ih hout
  | bind _ _ _ _ _ _ ih => exact ih hout
  | split _ _ _ _ ih => exact ih hout
  | clash => exact hconflict _ _ (Except.error.inj hout).symm
  | occurs => exact hconflict _ _ (Except.error.inj hout).symm
  | textless =>
    obtain rfl := Except.error.inj hout
    exact .inr ⟨_, rfl⟩

/-- Bindings that can be followed to their end from every type. -/
structure Followable (m : Bindings) : Prop where
  /-- No parameter leads back to itself, by parameters alone or through constructors. -/
  no_cycle : ∀ p, ¬TransGen m.Leads p p
  /-- Following a type comes to one that is no bound parameter. -/
  resolve : ∀ e, ∃ r, m.resolve e = .ok r ∧ m.IsResolved r
  /-- Every type has an instance, in which no bound parameter occurs and which is its own
  instance. -/
  apply : ∀ e, ∃ t, m.apply e = .ok t ∧ (∀ p ∈ t.params, p ∉ m) ∧ m.apply t = .ok t
  /-- A type that was instantiated in place is not changed by doing that again. -/
  refine : ∀ e, ∃ refined, m.refine? e = .ok refined ∧ m.refine? (refined.getD e) = .ok none
  /-- Unifying two more types does not stop for any reason that lies in the bindings. -/
  unify : ∀ l r i, m.unify l r = .error i →
    (∃ c message, i.cause = .conflict c message) ∨ ∃ f, i.cause = .malformed f

/-- Acyclic bindings can be followed to their end. -/
theorem Acyclic.followable (hm : m.Acyclic) : m.Followable where
  no_cycle := hm.not_transGen
  resolve := by
    intro e
    obtain ⟨r, hr⟩ := hm.exists_resolve e
    exact ⟨r, hr, (resolve_eq_ok hr).2⟩
  apply := by
    intro e
    have hnew : ∀ p ∈ (e.substitute m.value).params, p ∉ m :=
      fun _ hp ↦ not_mem_of_mem_params_instance hm hp
    refine ⟨e.substitute m.value, apply_eq hm e, hnew, ?_⟩
    rw [apply_eq hm, (substitute_value_eq_iff hm).2 hnew]
  refine := by
    intro e
    obtain ⟨refined, hrefined, hinstance⟩ := exists_refine?_eq hm e
    -- an instance has no bound parameters, so putting types in again does not change it
    have hsame : (e.substitute m.value).substitute m.value = e.substitute m.value :=
      (substitute_value_eq_iff hm).2 fun _ hp ↦ not_mem_of_mem_params_instance hm hp
    refine ⟨refined, hrefined, ?_⟩
    rw [hinstance, refine?_eq hm, if_pos hsame]
  unify := by
    intro l r i h
    have hsolves := solves_unify hm l r
    rw [h] at hsolves
    exact hsolves.cause_cases

/-! ### Runs -/

/-- The bindings after several unifications one after another; one that stops part way leaves what
it bound until then. -/
def unifyEach (m : Bindings) (eqs : List Equation) : Bindings :=
  eqs.foldl (fun m eq ↦ stateAfter (m.unify eq.1 eq.2)) m

theorem Reachable.unifyEach (hm : Reachable m) (eqs : List Equation) :
    Reachable (m.unifyEach eqs) := by
  induction eqs generalizing m with
  | nil => exact hm
  | cons eq eqs ih => exact ih (.unify hm eq.1 eq.2)

/-- No binding is changed or removed by unifications, whether or not they succeed. -/
theorem Reachable.extends_unifyEach (hm : Reachable m) (eqs : List Equation) :
    (m.unifyEach eqs).Extends m := by
  induction eqs generalizing m with
  | nil => exact Extends.refl m
  | cons eq eqs ih =>
    have hfirst : (stateAfter (m.unify eq.1 eq.2)).Extends m :=
      (solves_unify hm.acyclic eq.1 eq.2).extends
    exact (ih (.unify hm eq.1 eq.2)).trans hfirst

/-- After unifications of arbitrary types one after another, whether or not they succeed, the
bindings can be followed to their end from every type, and further unifications leave them as they
are. -/
theorem unifyEach_followable (eqs later : List Equation) :
    (unifyEach ∅ eqs).Followable ∧
      ((unifyEach ∅ eqs).unifyEach later).Extends (unifyEach ∅ eqs) :=
  have hreachable : Reachable (unifyEach ∅ eqs) := .unifyEach .empty eqs
  ⟨hreachable.acyclic.followable, hreachable.extends_unifyEach later⟩

/-- A unification that stops at its second arguments leaves the binding that its first arguments
made. -/
example : (unifyEach ∅ [(.compound "map" [.param ⟨"n", "A"⟩, .name "int"],
      .compound "map" [.compound "[]" [.param ⟨"n", "B"⟩], .name "string"])]).entries =
    [(⟨"n", "A"⟩, .compound "[]" [.param ⟨"n", "B"⟩])] := by
  cbv

end Bindings

end ChannelGraph
