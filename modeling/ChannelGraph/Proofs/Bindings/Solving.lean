import ChannelGraph.Bindings.Unify
import ChannelGraph.Proofs.Bindings.Acyclic

/-!
# Unification as solving equations

Unification is described here by rules on a list of equations that are still to be solved
(`Bindings.Solves`): the first equation is dropped, turned into a binding, or replaced by the
equations of its arguments, until none is left or one cannot be solved. The rules speak of
acyclic bindings only, so they mention neither depths nor cycles; that `Bindings.unify` follows
them is shown in `ChannelGraph.Proofs.Bindings.Descent`.

What a run does is read off the rules, one induction for each fact. The bindings stay acyclic
(`Solves.acyclic`) and only grow (`Solves.extends`). What holds of the types at the start, and of
the arguments of the types for which it holds, holds of everything that is bound
(`Solves.closedUnder`). A run that comes to its end solves its equations (`Solves.unifies`) and
assumes nothing else (`Solves.satisfiedBy`); a run that stops at a conflict stops at types that no
substitution makes equal, and so its equations have no solution (`Solves.not_unifies`).
-/

open Relation

namespace ChannelGraph

/-- Two types that are to be made equal. -/
abbrev Equation :=
  TypeExpr × TypeExpr

/-- A substitution solves equations. -/
def Unifies (σ : TypeParam → TypeExpr) (eqs : List Equation) : Prop :=
  ∀ eq ∈ eqs, eq.1.substitute σ = eq.2.substitute σ

section Unifies

variable {σ : TypeParam → TypeExpr} {eq : Equation} {eqs eqs' : List Equation}

@[simp]
theorem unifies_nil : Unifies σ [] :=
  fun _ h ↦ nomatch h

@[simp]
theorem unifies_cons :
    Unifies σ (eq :: eqs) ↔ eq.1.substitute σ = eq.2.substitute σ ∧ Unifies σ eqs :=
  List.forall_mem_cons

@[simp]
theorem unifies_append : Unifies σ (eqs ++ eqs') ↔ Unifies σ eqs ∧ Unifies σ eqs' :=
  List.forall_mem_append

/-- Constructors are made equal by making their arguments equal. -/
theorem unifies_zip_iff {h : String} {la ra : List TypeExpr} (hlen : la.length = ra.length) :
    Unifies σ (la.zip ra) ↔
      (TypeExpr.compound h la).substitute σ = (TypeExpr.compound h ra).substitute σ := by
  rw [TypeExpr.substitute_compound, TypeExpr.substitute_compound, TypeExpr.compound.injEq]
  simp only [true_and]
  induction la generalizing ra with
  | nil => cases ra with
    | nil => simp
    | cons b bs => cases hlen
  | cons a as ih => cases ra with
    | nil => cases hlen
    | cons b bs =>
      rw [List.zip_cons_cons, unifies_cons, ih (Nat.succ.inj hlen), List.map_cons, List.map_cons,
        List.cons.injEq]

end Unifies

namespace TypeExpr

/-- A property of types that passes on to the arguments of a constructor. -/
def Hereditary (P : TypeExpr → Prop) : Prop :=
  ∀ h args, P (compound h args) → ∀ a ∈ args, P a

end TypeExpr

/-- Two types that are no parameters and differ at their roots. -/
inductive Clash : TypeExpr → TypeExpr → Mismatch → Prop
  /-- Different names. -/
  | names {s t : String} (h : s ≠ t) : Clash (.name s) (.name t) .names
  /-- A name against a constructor. -/
  | nameLeft (s h : String) (args : List TypeExpr) :
      Clash (.name s) (.compound h args) .constructors
  /-- A constructor against a name. -/
  | nameRight (h : String) (args : List TypeExpr) (s : String) :
      Clash (.compound h args) (.name s) .constructors
  /-- Constructors with different heads or different numbers of arguments. -/
  | compounds {h k : String} {as bs : List TypeExpr} (hne : ¬(h = k ∧ as.length = bs.length)) :
      Clash (.compound h as) (.compound k bs) .constructors

/-- Types that clash have no instance in common. -/
theorem Clash.substitute_ne {a b : TypeExpr} {mismatch : Mismatch} (h : Clash a b mismatch)
    (σ : TypeParam → TypeExpr) : a.substitute σ ≠ b.substitute σ := by
  intro heq
  cases h with
  | names h =>
    injection heq with heq
    exact h heq
  | nameLeft s h args =>
    rw [TypeExpr.substitute_compound] at heq
    cases heq
  | nameRight h args s =>
    rw [TypeExpr.substitute_compound] at heq
    cases heq
  | compounds h =>
    rw [TypeExpr.substitute_compound, TypeExpr.substitute_compound] at heq
    injection heq with hhead hargs
    refine h ⟨hhead, ?_⟩
    have hlen := congrArg List.length hargs
    rwa [List.length_map, List.length_map] at hlen

/-- A conflict that leaves no way out under the bindings. -/
inductive Conflict.Justified (m : Bindings) : Conflict → Prop
  /-- The two sides differ at their roots. -/
  | clash {a b : TypeExpr} {mismatch : Mismatch} (h : Clash a b mismatch) :
      Justified m ⟨a, b, mismatch⟩
  /-- The parameter on the left side strictly occurs in the instance of the right side. -/
  | occurs {p : TypeParam} {e full : TypeExpr} (happly : m.apply e = .ok full)
      (hp : p ∈ full.params) (hne : full ≠ .param p) :
      Justified m ⟨.param p, e, .recursive⟩

namespace Conflict.Justified

/-- No substitution that satisfies the bindings removes a justified conflict. -/
theorem substitute_ne {m : Bindings} {c : Conflict} (hm : m.Acyclic) (h : c.Justified m)
    {σ : TypeParam → TypeExpr} (hσ : m.SatisfiedBy σ) :
    c.left.substitute σ ≠ c.right.substitute σ := by
  cases h with
  | clash h => exact h.substitute_ne σ
  | occurs happly hp hne =>
    rw [Bindings.apply_eq hm] at happly
    cases happly
    have hoccurs := TypeExpr.substitute_ne_of_mem_params σ hp hne
    rwa [Bindings.entails_substitute_value hm _ σ hσ] at hoccurs

end Conflict.Justified

/-- A conflict with texts for both sides is reported as it is. -/
theorem UnifyFault.ofConflict_eq_conflict {c c' : Conflict} {message : String}
    (h : UnifyFault.ofConflict c = .conflict c' message) :
    c = c' ∧ c.message = .ok message := by
  unfold UnifyFault.ofConflict at h
  cases hc : c.message with
  | error f => rw [hc] at h; cases h
  | ok text => rw [hc] at h; cases h; exact ⟨rfl, rfl⟩

/-- A conflict between types that have texts is reported. -/
theorem UnifyFault.exists_ofConflict_eq {a b : TypeExpr} {mismatch : Mismatch}
    (ha : a.IsWritable) (hb : b.IsWritable) :
    ∃ c message, UnifyFault.ofConflict ⟨a, b, mismatch⟩ = .conflict c message := by
  obtain ⟨s, hs⟩ := ha.exists_written
  obtain ⟨t, ht⟩ := hb.exists_written
  unfold UnifyFault.ofConflict Conflict.message
  rw [hs, ht]
  exact ⟨_, _, rfl⟩

namespace Bindings

/-! ### The rules -/

/-- Of two different resolved types one is a parameter, to be bound to the other one; the left
side comes first. -/
inductive Orients : TypeExpr → TypeExpr → TypeParam → TypeExpr → Prop
  /-- A parameter on the left side is bound to the right side. -/
  | left {p : TypeParam} {t : TypeExpr} (h : t ≠ .param p) : Orients (.param p) t p t
  /-- A parameter on the right side is bound to the left side, which is none. -/
  | right {p : TypeParam} {t : TypeExpr} (h : ∀ q, t ≠ .param q) : Orients t (.param p) p t

/-- How equations are solved from some bindings on: the bindings at the end, or the fault with
the bindings until then. -/
inductive Solves :
    Bindings → List Equation → Except (Interrupted UnifyFault Bindings) Bindings → Prop
  /-- Nothing is left to solve. -/
  | done (m : Bindings) : Solves m [] (.ok m)
  /-- Both sides resolve to the same type. -/
  | drop {m : Bindings} {l r t : TypeExpr} {eqs : List Equation}
      {out : Except (Interrupted UnifyFault Bindings) Bindings}
      (hl : m.resolve l = .ok t) (hr : m.resolve r = .ok t) (rest : Solves m eqs out) :
      Solves m ((l, r) :: eqs) out
  /-- A parameter is bound that does not occur in the instance of the other side. -/
  | bind {m : Bindings} {l r a b t : TypeExpr} {p : TypeParam} {eqs : List Equation}
      {out : Except (Interrupted UnifyFault Bindings) Bindings}
      (hl : m.resolve l = .ok a) (hr : m.resolve r = .ok b) (side : Orients a b p t)
      (hp : p ∉ (t.substitute m.value).params) (text : t.IsWritable)
      (rest : Solves (m.insert p t) eqs out) : Solves m ((l, r) :: eqs) out
  /-- Constructors with the same head and as many arguments are taken apart. -/
  | split {m : Bindings} {l r : TypeExpr} {h : String} {la ra : List TypeExpr}
      {eqs : List Equation} {out : Except (Interrupted UnifyFault Bindings) Bindings}
      (hl : m.resolve l = .ok (.compound h la)) (hr : m.resolve r = .ok (.compound h ra))
      (hlen : la.length = ra.length) (rest : Solves m (la.zip ra ++ eqs) out) :
      Solves m ((l, r) :: eqs) out
  /-- The sides differ at their roots. -/
  | clash {m : Bindings} {l r a b : TypeExpr} {mismatch : Mismatch} {eqs : List Equation}
      (hl : m.resolve l = .ok a) (hr : m.resolve r = .ok b) (hc : Clash a b mismatch) :
      Solves m ((l, r) :: eqs) (.error ⟨.ofConflict ⟨a, b, mismatch⟩, m⟩)
  /-- A parameter strictly occurs in the instance of the other side. -/
  | occurs {m : Bindings} {l r a b t : TypeExpr} {p : TypeParam} {eqs : List Equation}
      (hl : m.resolve l = .ok a) (hr : m.resolve r = .ok b) (side : Orients a b p t)
      (ht : ∀ q, t ≠ .param q) (hp : p ∈ (t.substitute m.value).params) :
      Solves m ((l, r) :: eqs) (.error ⟨.ofConflict ⟨.param p, t, .recursive⟩, m⟩)
  /-- The type that is to be bound has no text. -/
  | textless {m : Bindings} {l r a b t : TypeExpr} {p : TypeParam} {f : Malformed}
      {eqs : List Equation} (hl : m.resolve l = .ok a) (hr : m.resolve r = .ok b)
      (side : Orients a b p t) (hp : p ∉ (t.substitute m.value).params)
      (text : t.written = .error f) : Solves m ((l, r) :: eqs) (.error ⟨.malformed f, m⟩)

variable {m m' : Bindings} {l r a b t : TypeExpr} {p : TypeParam} {σ : TypeParam → TypeExpr}
variable {eqs eqs' : List Equation} {out : Except (Interrupted UnifyFault Bindings) Bindings}

namespace Orients

/-- The parameter that is to be bound has no binding. -/
theorem unbound (side : Orients a b p t) (hl : m.resolve l = .ok a) (hr : m.resolve r = .ok b) :
    m.get? p = none := by
  cases side with
  | left h => exact (resolve_eq_ok hl).2 p rfl
  | right h => exact (resolve_eq_ok hr).2 p rfl

/-- To make the sides equal is to make the parameter equal to its type. -/
theorem substitute_eq_iff (side : Orients a b p t) (σ : TypeParam → TypeExpr) :
    a.substitute σ = b.substitute σ ↔ σ p = t.substitute σ := by
  cases side with
  | left h => exact Iff.rfl
  | right h => exact eq_comm

/-- What holds of both sides holds of the parameter and of its type. -/
theorem pair {P : TypeExpr → Prop} (side : Orients a b p t) (ha : P a) (hb : P b) :
    P (.param p) ∧ P t := by
  cases side with
  | left h => exact ⟨ha, hb⟩
  | right h => exact ⟨hb, ha⟩

end Orients

/-- Resolving both sides does not change which substitutions solve an equation. -/
theorem substitute_eq_iff_of_resolve (hl : m.resolve l = .ok a) (hr : m.resolve r = .ok b)
    (hσ : m.SatisfiedBy σ) :
    l.substitute σ = r.substitute σ ↔ a.substitute σ = b.substitute σ := by
  rw [entails_of_resolve hl σ hσ, entails_of_resolve hr σ hσ]

/-! ### Runs after one another -/

/-- After the first equations are solved the others are solved from there. -/
theorem Solves.append (h : Solves m eqs (.ok m')) (h' : Solves m' eqs' out) :
    Solves m (eqs ++ eqs') out := by
  generalize hout : Except.ok m' = first at h
  induction h with
  | done m =>
    cases hout
    exact h'
  | drop hl hr _ ih => exact .drop hl hr (ih hout)
  | bind hl hr side hp text _ ih => exact .bind hl hr side hp text (ih hout)
  | split hl hr hlen _ ih =>
    refine .split hl hr hlen ?_
    show Solves _ (_ ++ (_ ++ _)) _
    rw [← List.append_assoc]
    exact ih hout
  | clash | occurs | textless => cases hout

/-- If the first equations stop a run, the others are not looked at. -/
theorem Solves.append_error {i : Interrupted UnifyFault Bindings} (h : Solves m eqs (.error i))
    (eqs' : List Equation) : Solves m (eqs ++ eqs') (.error i) := by
  generalize hout : Except.error i = first at h
  induction h with
  | done => cases hout
  | drop hl hr _ ih => exact .drop hl hr (ih hout)
  | bind hl hr side hp text _ ih => exact .bind hl hr side hp text (ih hout)
  | split hl hr hlen _ ih =>
    refine .split hl hr hlen ?_
    show Solves _ (_ ++ (_ ++ _)) _
    rw [← List.append_assoc]
    exact ih hout
  | clash hl hr hc => exact hout ▸ .clash hl hr hc
  | occurs hl hr side ht hp => exact hout ▸ .occurs hl hr side ht hp
  | textless hl hr side hp text => exact hout ▸ .textless hl hr side hp text

/-! ### What a run keeps -/

/-- A run keeps the bindings acyclic, also a run that stops. -/
theorem Solves.acyclic (h : Solves m eqs out) (hm : m.Acyclic) : (stateAfter out).Acyclic := by
  induction h with
  | done => exact hm
  | drop _ _ _ ih => exact ih hm
  | bind hl hr side hp _ _ ih => exact ih (hm.insert (side.unbound hl hr) hp)
  | split _ _ _ _ ih => exact ih hm
  | clash | occurs | textless => exact hm

/-- A run changes no binding, also a run that stops. -/
theorem Solves.extends (h : Solves m eqs out) : (stateAfter out).Extends m := by
  induction h with
  | done m => exact Extends.refl m
  | drop _ _ _ ih => exact ih
  | bind hl hr side _ _ _ ih => exact ih.trans (extends_insert (side.unbound hl hr))
  | split _ _ _ _ ih => exact ih
  | clash | occurs | textless => exact Extends.refl _

/-- Every bound type has a text. -/
def Writable (m : Bindings) : Prop :=
  ∀ p e, m.get? p = some e → e.IsWritable

theorem writable_empty : (∅ : Bindings).Writable :=
  fun _ _ h ↦ nomatch h

theorem Writable.insert (hm : m.Writable) (ht : t.IsWritable) :
    Writable (OrderedMap.insert m p t) := by
  intro q e hq
  rw [OrderedMap.get?_insert] at hq
  split at hq
  · rwa [← Option.some.inj hq]
  · exact hm q e hq

/-- Where only types that have a text are bound, the values of parameters have texts. -/
theorem Writable.value (hw : m.Writable) (hm : m.Acyclic) (p : TypeParam) :
    (m.value p).IsWritable := by
  induction p using hm.induction with
  | h p ih =>
    cases hp : m.get? p with
    | none =>
      rw [value_of_unbound hp]
      exact .param p
    | some e =>
      rw [value_of_bound hm hp]
      exact (hw p e hp).substitute fun q hq ↦ ih q ⟨e, hp, hq⟩

/-- A run binds only types that have a text. -/
theorem Solves.writable (h : Solves m eqs out) (hm : m.Writable) : (stateAfter out).Writable := by
  induction h with
  | done => exact hm
  | drop _ _ _ ih => exact ih hm
  | bind _ _ _ _ text _ ih => exact ih (hm.insert text)
  | split _ _ _ _ ih => exact ih hm
  | clash | occurs | textless => exact hm

/-- Where a property holds of a bound parameter it holds of its type. -/
def ClosedUnder (m : Bindings) (P : TypeExpr → Prop) : Prop :=
  ∀ p e, m.get? p = some e → P (.param p) → P e

theorem Writable.closedUnder (hm : m.Writable) : m.ClosedUnder TypeExpr.IsWritable :=
  fun p e hp _ ↦ hm p e hp

theorem ClosedUnder.resolve {P : TypeExpr → Prop} (hm : m.ClosedUnder P)
    (h : m.resolve l = .ok a) (hl : P l) : P a := by
  have hfollow := (resolve_eq_ok h).1
  clear h
  induction hfollow with
  | refl => exact hl
  | tail _ hstep ih =>
    obtain ⟨p, rfl, hp⟩ := hstep
    exact hm p _ hp ih

theorem ClosedUnder.insert {P : TypeExpr → Prop} (hm : m.ClosedUnder P) (ht : P t) :
    ClosedUnder (OrderedMap.insert m p t) P := by
  intro q e hq hPq
  rw [OrderedMap.get?_insert] at hq
  split at hq
  · rwa [← Option.some.inj hq]
  · exact hm q e hq hPq

/-- What holds of the sides of the equations, and of the arguments of types for which it holds,
holds of every parameter that a run binds, and of its type. -/
theorem Solves.closedUnder {P : TypeExpr → Prop} (h : Solves m eqs out)
    (hP : TypeExpr.Hereditary P) (hm : m.ClosedUnder P) (heqs : ∀ eq ∈ eqs, P eq.1 ∧ P eq.2) :
    (stateAfter out).ClosedUnder P ∧
      ∀ p, m.get? p = none → p ∈ stateAfter out → P (.param p) := by
  induction h with
  | done m =>
    refine ⟨hm, fun p hp hmem ↦ ?_⟩
    exact absurd hmem (OrderedMap.get?_eq_none_iff.1 hp)
  | drop _ _ _ ih => exact ih hm (List.forall_mem_cons.1 heqs).2
  | @bind m l r a b t p eqs out hl hr side _ _ _ ih =>
    obtain ⟨⟨hPl, hPr⟩, hPeqs⟩ := List.forall_mem_cons.1 heqs
    obtain ⟨hPp, hPt⟩ := side.pair (P := P) (hm.resolve hl hPl) (hm.resolve hr hPr)
    obtain ⟨hclosed, hnew⟩ := ih (hm.insert hPt) hPeqs
    refine ⟨hclosed, fun q hq hmem ↦ ?_⟩
    by_cases hqp : q = p
    · rwa [hqp]
    · exact hnew q (by rwa [OrderedMap.get?_insert_of_ne _ _ hqp]) hmem
  | @split m l r h la ra eqs out hl hr hlen _ ih =>
    obtain ⟨⟨hPl, hPr⟩, hPeqs⟩ := List.forall_mem_cons.1 heqs
    refine ih hm (List.forall_mem_append.2 ⟨fun eq heq ↦ ?_, hPeqs⟩)
    obtain ⟨ha, hb⟩ := List.of_mem_zip heq
    exact ⟨hP h la (hm.resolve hl hPl) _ ha, hP h ra (hm.resolve hr hPr) _ hb⟩
  | clash | occurs | textless =>
    refine ⟨hm, fun p hp hmem ↦ ?_⟩
    exact absurd hmem (OrderedMap.get?_eq_none_iff.1 hp)

/-! ### What a run solves -/

/-- A run assumes nothing that does not follow from its equations, also a run that stops. -/
theorem Solves.satisfiedBy (h : Solves m eqs out) (hσ : m.SatisfiedBy σ) (heqs : Unifies σ eqs) :
    (stateAfter out).SatisfiedBy σ := by
  induction h with
  | done => exact hσ
  | drop _ _ _ ih => exact ih hσ (unifies_cons.1 heqs).2
  | bind hl hr side _ _ _ ih =>
    obtain ⟨heq, heqs⟩ := unifies_cons.1 heqs
    have hbound := (side.substitute_eq_iff σ).1 ((substitute_eq_iff_of_resolve hl hr hσ).1 heq)
    exact ih ((satisfiedBy_insert (side.unbound hl hr)).2 ⟨hσ, hbound⟩) heqs
  | split hl hr hlen _ ih =>
    obtain ⟨heq, heqs⟩ := unifies_cons.1 heqs
    have hargs := (unifies_zip_iff hlen).2 ((substitute_eq_iff_of_resolve hl hr hσ).1 heq)
    exact ih hσ (unifies_append.2 ⟨hargs, heqs⟩)
  | clash | occurs | textless => exact hσ

/-- A run that comes to its end solves its equations. -/
theorem Solves.unifies (h : Solves m eqs (.ok m')) (hσ : m'.SatisfiedBy σ) : Unifies σ eqs := by
  generalize hout : Except.ok m' = out at h
  induction h with
  | done => exact unifies_nil
  | drop hl hr rest ih =>
    have hm := (hout ▸ rest.extends : m'.Extends _).satisfiedBy hσ
    exact unifies_cons.2 ⟨(substitute_eq_iff_of_resolve hl hr hm).2 rfl, ih hout⟩
  | bind hl hr side _ _ rest ih =>
    have hm := (hout ▸ rest.extends : m'.Extends _).satisfiedBy hσ
    obtain ⟨hm, hbound⟩ := (satisfiedBy_insert (side.unbound hl hr)).1 hm
    refine unifies_cons.2 ⟨?_, ih hout⟩
    exact (substitute_eq_iff_of_resolve hl hr hm).2 ((side.substitute_eq_iff σ).2 hbound)
  | split hl hr hlen rest ih =>
    have hm := (hout ▸ rest.extends : m'.Extends _).satisfiedBy hσ
    obtain ⟨hargs, heqs⟩ := unifies_append.1 (ih hout)
    refine unifies_cons.2 ⟨?_, heqs⟩
    exact (substitute_eq_iff_of_resolve hl hr hm).2 ((unifies_zip_iff hlen).1 hargs)
  | clash | occurs | textless => cases hout

/-- Nothing is bound, and no run stops, where the bindings already say that the equations hold. -/
theorem Solves.eq_ok (h : Solves m eqs out) (hm : m.Acyclic)
    (heqs : ∀ σ, m.SatisfiedBy σ → Unifies σ eqs) : out = .ok m := by
  -- an unbound parameter stands for itself in the instances, so there is nothing to bind it to
  have hself {m : Bindings} {l r a b t : TypeExpr} {p : TypeParam} {eqs : List Equation}
      (hm : m.Acyclic) (heqs : ∀ σ, m.SatisfiedBy σ → Unifies σ ((l, r) :: eqs))
      (hl : m.resolve l = .ok a) (hr : m.resolve r = .ok b) (side : Orients a b p t) :
      t.substitute m.value = .param p := by
    have hvalue := satisfiedBy_value hm
    have heq := (unifies_cons.1 (heqs _ hvalue)).1
    have hbound :=
      (side.substitute_eq_iff _).1 ((substitute_eq_iff_of_resolve hl hr hvalue).1 heq)
    rw [← hbound, value_of_unbound (side.unbound hl hr)]
  induction h with
  | done => rfl
  | drop _ _ _ ih => exact ih hm fun σ hσ ↦ (unifies_cons.1 (heqs σ hσ)).2
  | bind hl hr side hp =>
    rw [hself hm heqs hl hr side] at hp
    exact absurd (List.mem_singleton.2 rfl) hp
  | split hl hr hlen _ ih =>
    refine ih hm fun σ hσ ↦ ?_
    obtain ⟨heq, heqs⟩ := unifies_cons.1 (heqs σ hσ)
    have hargs := (unifies_zip_iff hlen).2 ((substitute_eq_iff_of_resolve hl hr hσ).1 heq)
    exact unifies_append.2 ⟨hargs, heqs⟩
  | clash hl hr hc =>
    have hvalue := satisfiedBy_value hm
    have heq := (unifies_cons.1 (heqs _ hvalue)).1
    exact absurd ((substitute_eq_iff_of_resolve hl hr hvalue).1 heq) (hc.substitute_ne _)
  | @occurs m l r a b t p eqs hl hr side ht hp =>
    have hinstance := hself hm heqs hl hr side
    cases t with
    | param q => exact absurd rfl (ht q)
    | name s => simp [TypeExpr.substitute] at hinstance
    | compound h args => simp [TypeExpr.substitute] at hinstance
  | textless hl hr side hp =>
    rw [hself hm heqs hl hr side] at hp
    exact absurd (List.mem_singleton.2 rfl) hp

/-! ### Where a run stops -/

/-- A parameter that occurs in the instance of a type that is no parameter is in conflict with
it. -/
theorem justified_of_mem_params (hm : m.Acyclic) (ht : ∀ q, t ≠ .param q)
    (hp : p ∈ (t.substitute m.value).params) :
    Conflict.Justified m ⟨.param p, t, .recursive⟩ := by
  refine .occurs (apply_eq hm t) hp ?_
  cases t with
  | param q => exact absurd rfl (ht q)
  | name s => simp [TypeExpr.substitute]
  | compound h args => simp [TypeExpr.substitute]

/-- A conflict at which a run stops is justified by the bindings that are there then. -/
theorem Solves.justified {c : Conflict} {message : String} (hm : m.Acyclic)
    (h : Solves m eqs (.error ⟨.conflict c message, m'⟩)) :
    c.Justified m' ∧ c.message = .ok message := by
  generalize hout : Except.error _ = out at h
  induction h with
  | done => cases hout
  | drop _ _ _ ih => exact ih hm hout
  | bind hl hr side hp _ _ ih => exact ih (hm.insert (side.unbound hl hr) hp) hout
  | split _ _ _ _ ih => exact ih hm hout
  | clash _ _ hc =>
    injection hout with hout
    injection hout with hcause hreached
    obtain ⟨rfl, hmessage⟩ := UnifyFault.ofConflict_eq_conflict hcause.symm
    exact ⟨.clash hc, hmessage⟩
  | occurs _ _ _ ht hp =>
    injection hout with hout
    injection hout with hcause hreached
    obtain ⟨rfl, hmessage⟩ := UnifyFault.ofConflict_eq_conflict hcause.symm
    subst hreached
    exact ⟨justified_of_mem_params hm ht hp, hmessage⟩
  | textless =>
    injection hout with hout
    injection hout with hcause
    cases hcause

/-- Where all types have texts, a run stops at conflicts only. -/
theorem Solves.exists_conflict {i : Interrupted UnifyFault Bindings} (hm : m.Writable)
    (heqs : ∀ eq ∈ eqs, eq.1.IsWritable ∧ eq.2.IsWritable) (h : Solves m eqs (.error i)) :
    ∃ c message, i.cause = .conflict c message := by
  generalize hout : Except.error i = out at h
  induction h with
  | done => cases hout
  | drop _ _ _ ih => exact ih hm (List.forall_mem_cons.1 heqs).2 hout
  | bind _ _ _ _ text _ ih => exact ih (hm.insert text) (List.forall_mem_cons.1 heqs).2 hout
  | @split m l r h la ra eqs out hl hr _ _ ih =>
    -- arguments of types with texts have texts
    obtain ⟨⟨hwl, hwr⟩, hweqs⟩ := List.forall_mem_cons.1 heqs
    refine ih hm (List.forall_mem_append.2 ⟨fun eq heq ↦ ?_, hweqs⟩) hout
    obtain ⟨ha, hb⟩ := List.of_mem_zip heq
    exact ⟨(hm.closedUnder.resolve hl hwl).of_mem ha, (hm.closedUnder.resolve hr hwr).of_mem hb⟩
  | clash hl hr =>
    obtain ⟨⟨hwl, hwr⟩, -⟩ := List.forall_mem_cons.1 heqs
    cases hout
    exact UnifyFault.exists_ofConflict_eq (hm.closedUnder.resolve hl hwl)
      (hm.closedUnder.resolve hr hwr)
  | occurs hl hr side =>
    obtain ⟨⟨hwl, hwr⟩, -⟩ := List.forall_mem_cons.1 heqs
    obtain ⟨hwp, hwt⟩ := side.pair (P := TypeExpr.IsWritable) (hm.closedUnder.resolve hl hwl)
      (hm.closedUnder.resolve hr hwr)
    cases hout
    exact UnifyFault.exists_ofConflict_eq hwp hwt
  | textless hl hr side _ text =>
    obtain ⟨⟨hwl, hwr⟩, -⟩ := List.forall_mem_cons.1 heqs
    obtain ⟨-, hwt⟩ := side.pair (P := TypeExpr.IsWritable) (hm.closedUnder.resolve hl hwl)
      (hm.closedUnder.resolve hr hwr)
    -- a run that stops over a missing text contradicts that all types have texts
    obtain ⟨text', htext⟩ := hwt.exists_written
    rw [text] at htext
    cases htext

/-- If a run stops at a conflict, its equations have no solution under its bindings. -/
theorem Solves.not_unifies {c : Conflict} {message : String} (hm : m.Acyclic)
    (h : Solves m eqs (.error ⟨.conflict c message, m'⟩)) (hσ : m.SatisfiedBy σ) :
    ¬Unifies σ eqs := by
  generalize hout : Except.error _ = out at h
  induction h with
  | done => cases hout
  | drop _ _ _ ih => exact fun heqs ↦ ih hm hσ hout (unifies_cons.1 heqs).2
  | bind hl hr side hp _ _ ih =>
    intro heqs
    obtain ⟨heq, heqs⟩ := unifies_cons.1 heqs
    have hbound := (side.substitute_eq_iff σ).1 ((substitute_eq_iff_of_resolve hl hr hσ).1 heq)
    have hunbound := side.unbound hl hr
    exact ih (hm.insert hunbound hp) ((satisfiedBy_insert hunbound).2 ⟨hσ, hbound⟩) hout heqs
  | split hl hr hlen _ ih =>
    intro heqs
    obtain ⟨heq, heqs⟩ := unifies_cons.1 heqs
    have hargs := (unifies_zip_iff hlen).2 ((substitute_eq_iff_of_resolve hl hr hσ).1 heq)
    exact ih hm hσ hout (unifies_append.2 ⟨hargs, heqs⟩)
  | clash hl hr hc =>
    intro heqs
    -- no substitution makes different constructors equal
    exact hc.substitute_ne σ ((substitute_eq_iff_of_resolve hl hr hσ).1 (unifies_cons.1 heqs).1)
  | occurs hl hr side ht hp =>
    intro heqs
    have heq := (substitute_eq_iff_of_resolve hl hr hσ).1 (unifies_cons.1 heqs).1
    exact (justified_of_mem_params hm ht hp).substitute_ne hm hσ ((side.substitute_eq_iff σ).1 heq)
  | textless =>
    injection hout with hout
    injection hout with hcause
    cases hcause

end Bindings

end ChannelGraph
