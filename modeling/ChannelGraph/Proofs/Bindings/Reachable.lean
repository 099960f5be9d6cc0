import ChannelGraph.Proofs.Bindings.MostGeneral
import Mathlib

/-!
# Unification on reachable bindings

The bindings that unifications lead to from none on are acyclic, and only types with texts are bound
in them, whatever was unified and whether or not it succeeded. So among them a unification that
succeeds is most general (`unify_mostGeneral`), and it stops exactly when nothing makes its types
equal, at two types that show this (`unify_conflict_iff`).
-/

namespace ChannelGraph

namespace Bindings

variable {m m' : Bindings} {l r : TypeExpr}

/-- The bindings that unifications lead to from none on, also those that stop part way. -/
inductive Reachable : Bindings → Prop
  /-- Nothing is bound at first. -/
  | empty : Reachable ∅
  /-- What is bound after a unification, whether it succeeds or not. -/
  | unify {m : Bindings} (hm : Reachable m) (l r : TypeExpr) : Reachable (stateAfter (m.unify l r))

theorem Reachable.acyclic (h : Reachable m) : m.Acyclic := by
  induction h with
  | empty => exact acyclic_empty
  | unify _ l r ih => exact (solves_unify ih l r).acyclic ih

/-- Whatever is unified, only types that have a text are bound. -/
theorem Reachable.writable (h : Reachable m) : m.Writable := by
  induction h with
  | empty => exact writable_empty
  | unify hm l r ih => exact (solves_unify hm.acyclic l r).writable ih

/-- A unification that succeeds on reachable bindings is most general relative to them. -/
theorem unify_mostGeneral (hm : Reachable m) (h : m.unify l r = .ok m') : MostGeneral m l r m' :=
  hm.acyclic.mostGeneral h

/-- With `$A` bound to `[]$B`, the types `map[$A]$B` and `map[$C]int` are unified by binding `$C`
to `[]$B`, unapplied, and then `$B` to `int`. -/
theorem unify_mostGeneral_map :
    ∃ m m' : Bindings, Reachable m ∧
      m.unify (.compound "map" [.param ⟨"n", "A"⟩, .param ⟨"n", "B"⟩])
        (.compound "map" [.param ⟨"k", "C"⟩, .name "int"]) = .ok m' ∧
      m'.entries = [(⟨"n", "A"⟩, .compound "[]" [.param ⟨"n", "B"⟩]),
        (⟨"k", "C"⟩, .compound "[]" [.param ⟨"n", "B"⟩]), (⟨"n", "B"⟩, .name "int")] ∧
      MostGeneral m (.compound "map" [.param ⟨"n", "A"⟩, .param ⟨"n", "B"⟩])
        (.compound "map" [.param ⟨"k", "C"⟩, .name "int"]) m' := by
  have hm : Reachable (stateAfter ((∅ : Bindings).unify (.param ⟨"n", "A"⟩)
      (.compound "[]" [.param ⟨"n", "B"⟩]))) := .unify .empty _ _
  have hrun : Bindings.unify (stateAfter ((∅ : Bindings).unify (.param ⟨"n", "A"⟩)
      (.compound "[]" [.param ⟨"n", "B"⟩])))
        (.compound "map" [.param ⟨"n", "A"⟩, .param ⟨"n", "B"⟩])
        (.compound "map" [.param ⟨"k", "C"⟩, .name "int"]) =
      .ok (.ofList [(⟨"n", "A"⟩, .compound "[]" [.param ⟨"n", "B"⟩]),
        (⟨"k", "C"⟩, .compound "[]" [.param ⟨"n", "B"⟩]), (⟨"n", "B"⟩, .name "int")]) := by
    cbv
  exact ⟨_, _, hm, hrun, by cbv, unify_mostGeneral hm hrun⟩

/-- Unifying types that have texts stops at a conflict exactly if no substitution satisfies the
bindings and makes the types equal. The conflict is between two types of which the same is true
under the bindings that are there then, and it is of the kind that is said. -/
theorem unify_conflict_iff (hm : Reachable m) (hl : l.IsWritable) (hr : r.IsWritable) :
    ((∃ c message m', m.unify l r = .error ⟨.conflict c message, m'⟩) ↔
        ¬∃ σ, m.SatisfiedBy σ ∧ l.substitute σ = r.substitute σ) ∧
      ∀ c message m', m.unify l r = .error ⟨.conflict c message, m'⟩ →
        (¬∃ σ, m'.SatisfiedBy σ ∧ c.left.substitute σ = c.right.substitute σ) ∧
          c.Justified m' ∧ c.message = .ok message := by
  have hacyclic := hm.acyclic
  refine ⟨⟨?_, fun hnone ↦ ?_⟩, fun c message m' h ↦ ?_⟩
  · rintro ⟨c, message, m', h⟩ ⟨σ, hσ, heq⟩
    exact (hacyclic.unify_error hm.writable hl hr h).2 σ hσ heq
  · cases h : m.unify l r with
    | ok m' =>
      have hsolves := solves_unify hacyclic l r
      rw [h] at hsolves
      have hm' : m'.Acyclic := hsolves.acyclic hacyclic
      -- the bindings of a unification that succeeds are a solution themselves
      refine absurd ⟨m'.value, ?_, ?_⟩ hnone
      · exact hsolves.extends.satisfiedBy (satisfiedBy_value hm')
      · exact unifies_singleton.1 (hsolves.unifies (satisfiedBy_value hm'))
    | error i =>
      obtain ⟨⟨c, message, hcause⟩, -⟩ := hacyclic.unify_error hm.writable hl hr h
      obtain ⟨cause, reached⟩ := i
      subst hcause
      exact ⟨c, message, reached, rfl⟩
  · have hsolves := solves_unify hacyclic l r
    rw [h] at hsolves
    have hm' : m'.Acyclic := hsolves.acyclic hacyclic
    obtain ⟨hjustified, hmessage⟩ := hsolves.justified hacyclic
    refine ⟨?_, hjustified, hmessage⟩
    rintro ⟨σ, hσ, heq⟩
    exact hjustified.substitute_ne hm' hσ heq

/-- With `$A` bound to `[]$B`, the parameters `$B` and `$A` cannot be made equal: the occurrence is
one binding away from the two types. -/
theorem unify_conflict_iff_chain :
    ∃ m : Bindings, Reachable m ∧ (TypeExpr.param ⟨"n", "B"⟩).IsWritable ∧
      (TypeExpr.param ⟨"n", "A"⟩).IsWritable ∧
      (∃ c message m', m.unify (.param ⟨"n", "B"⟩) (.param ⟨"n", "A"⟩) =
        .error ⟨.conflict c message, m'⟩) ∧
      ¬∃ σ, m.SatisfiedBy σ ∧ σ ⟨"n", "B"⟩ = σ ⟨"n", "A"⟩ := by
  have hm : Reachable (stateAfter ((∅ : Bindings).unify (.param ⟨"n", "A"⟩)
      (.compound "[]" [.param ⟨"n", "B"⟩]))) := .unify .empty _ _
  have hrun : Bindings.unify (stateAfter ((∅ : Bindings).unify (.param ⟨"n", "A"⟩)
      (.compound "[]" [.param ⟨"n", "B"⟩]))) (.param ⟨"n", "B"⟩) (.param ⟨"n", "A"⟩) =
      .error ⟨.conflict ⟨.param ⟨"n", "B"⟩, .compound "[]" [.param ⟨"n", "B"⟩], .recursive⟩
        "cannot unify $B with []$B: recursive type",
        .ofList [(⟨"n", "A"⟩, .compound "[]" [.param ⟨"n", "B"⟩])]⟩ := by
    cbv
  refine ⟨_, hm, .param _, .param _, ⟨_, _, _, hrun⟩, ?_⟩
  exact (unify_conflict_iff hm (.param _) (.param _)).1.1 ⟨_, _, _, hrun⟩

end Bindings

end ChannelGraph
