import ChannelGraph.Proofs.Bindings.Runs
import ChannelGraph.Proofs.Lists

/-!
# The recursion of unification ends

`Bindings.unify` counts its levels, but this is not needed: the recursion ends by itself. Every call
goes on with the arguments of what its sides resolve to (`Bindings.Calls`), and these may be larger
than its sides, since to resolve is to go to a bound type; besides, the bindings grow from one pair
of arguments to the next. What gets smaller is the number of constructors that were not entered yet
on the way down (`Way`), out of those that were there before the first call. Where a parameter is to
be bound, its type is instantiated by a recursion of its own (`Bindings.Enters`), which goes down
the order of the bindings.

Both measures need the bindings to be acyclic, and those that a call meets are
(`Calls.acyclic`). So unification is the solution of its own equation, without levels
(`Acyclic.unify_eq`), and no level that is left out or added shows (`unify_ends`).
-/

open Relation

namespace ChannelGraph

namespace Bindings

variable {m m' : Bindings} {l r a b e : TypeExpr} {p : TypeParam} {call call' : Bindings × Equation}
variable {pool way : List TypeExpr} {levels levels' : Nat}
variable {out : Except (Interrupted UnifyFault Bindings) Bindings}

/-! ### One call -/

/-- What one call of unification does, where the calls on arguments are left open. -/
def unifyStep (recur : Bindings → TypeExpr → TypeExpr → Except (Interrupted UnifyFault Bindings)
    Bindings) (m : Bindings) (left right : TypeExpr) :
    Except (Interrupted UnifyFault Bindings) Bindings :=
  match m.resolve left with
  | .error c => .error ⟨.cyclic c, m⟩
  | .ok l =>
    match m.resolve right with
    | .error c => .error ⟨.cyclic c, m⟩
    | .ok r =>
      if l = r then .ok m
      else
        match l, r with
        | .param p, r => m.bind p r
        | l, .param q => m.bind q l
        | .compound lh la, .compound rh ra =>
          if lh = rh ∧ la.length = ra.length then
            (la.zip ra).foldlM (fun m pair ↦ recur m pair.1 pair.2) m
          else .error ⟨.ofConflict ⟨l, r, .constructors⟩, m⟩
        | .name _, .name _ => .error ⟨.ofConflict ⟨l, r, .names⟩, m⟩
        | l, r => .error ⟨.ofConflict ⟨l, r, .constructors⟩, m⟩

theorem unifyWithin_succ (levels : Nat) (m : Bindings) (l r : TypeExpr) :
    unifyWithin (levels + 1) m l r = unifyStep (unifyWithin levels) m l r :=
  rfl

/-- The calls on arguments: of the constructors that both sides resolve to, each pair of arguments
after those in front of it are unified. -/
inductive Calls : Bindings × Equation → Bindings × Equation → Prop
  /-- A pair of arguments. -/
  | argument {m m' : Bindings} {l r a b : TypeExpr} {h : String} {la ra : List TypeExpr}
      {earlier later : List Equation} (hl : m.resolve l = .ok (.compound h la))
      (hr : m.resolve r = .ok (.compound h ra)) (hne : la ≠ ra) (hlen : la.length = ra.length)
      (hsplit : la.zip ra = earlier ++ (a, b) :: later)
      (hrun : earlier.foldlM (fun m eq ↦ m.unify eq.1 eq.2) m = .ok m') :
      Calls (m, (l, r)) (m', (a, b))

/-- The calls on the way to the instance of a type: for each parameter in it, one for the first type
that is no parameter, if there is one. -/
def Enters (m : Bindings) (e e' : TypeExpr) : Prop :=
  ∃ p ∈ e.params, m.resolve (.param p) = .ok e' ∧ ∀ q, e' ≠ .param q

/-- A run was not ended by the count of its levels, nor by bindings that lead back to
themselves. -/
def Uncut (out : Except (Interrupted UnifyFault Bindings) Bindings) : Prop :=
  ∀ i, out = .error i → (∃ c message, i.cause = .conflict c message) ∨ ∃ f, i.cause = .malformed f

theorem Acyclic.uncut_unify (hm : m.Acyclic) (l r : TypeExpr) : Uncut (m.unify l r) :=
  hm.followable.unify l r

/-! ### No way down is endless -/

/-- Unifying equations one after the other follows the rules. -/
theorem Acyclic.solves_foldlM_unify (hm : m.Acyclic) (eqs : List Equation) :
    Solves m eqs (eqs.foldlM (fun m eq ↦ m.unify eq.1 eq.2) m) := by
  refine solves_foldlM (K := Acyclic) (fun m hm eq _ ↦ solves_unify hm eq.1 eq.2) ?_ hm
  exact fun m hm eq _ m' hsolves ↦ hsolves.acyclic hm

theorem Calls.acyclic (h : Calls call call') (hm : call.1.Acyclic) : call'.1.Acyclic := by
  cases h with
  | @argument m m' l r a b h la ra earlier later hl hr hne hlen hsplit hrun =>
    have hsolves := hm.solves_foldlM_unify earlier
    rw [hrun] at hsolves
    exact hsolves.acyclic hm

/-- With every call one more constructor of the pool has been entered. -/
theorem Calls.exists_way (hpool : TypeExpr.Hereditary (· ∈ pool)) (hm : m.Acyclic)
    (hclosed : m.ClosedUnder (· ∈ pool)) (hl : l ∈ pool) (hr : r ∈ pool) (hway : Way m pool way l)
    (h : Calls (m, (l, r)) (m', (a, b))) :
    m'.Acyclic ∧ m'.ClosedUnder (· ∈ pool) ∧ a ∈ pool ∧ b ∈ pool ∧
      ∃ entered, Way m' pool (entered :: way) a := by
  cases h with
  | @argument _ _ _ _ _ _ h la ra earlier later hla hra _ _ hsplit hrun =>
    have hlas : .compound h la ∈ pool := hclosed.resolve hla hl
    have hras : .compound h ra ∈ pool := hclosed.resolve hra hr
    have hsides : ∀ eq ∈ la.zip ra, eq.1 ∈ pool ∧ eq.2 ∈ pool := by
      rintro ⟨x, y⟩ hxy
      obtain ⟨hx, hy⟩ := List.of_mem_zip hxy
      exact ⟨hpool h la hlas x hx, hpool h ra hras y hy⟩
    have hab : (a, b) ∈ la.zip ra := by
      rw [hsplit]
      exact List.mem_append_right _ List.mem_cons_self
    have hearlier : ∀ eq ∈ earlier, eq.1 ∈ pool ∧ eq.2 ∈ pool := by
      intro eq heq
      refine hsides eq ?_
      rw [hsplit]
      exact List.mem_append_left _ heq
    -- the arguments in front were unified first, which keeps the bindings acyclic and in the pool
    have hsolves := hm.solves_foldlM_unify earlier
    rw [hrun] at hsolves
    refine ⟨hsolves.acyclic hm, (hsolves.closedUnder hpool hclosed hearlier).1, (hsides _ hab).1,
      (hsides _ hab).2, .compound h la, ?_⟩
    exact (hway.cons hm hla hlas (List.of_mem_zip hab).1).mono hsolves.extends

/-- A call that still can enter some constructors of the pool ends. -/
theorem acc_calls (hpool : TypeExpr.Hereditary (· ∈ pool)) (hm : m.Acyclic)
    (hclosed : m.ClosedUnder (· ∈ pool)) (hl : l ∈ pool) (hr : r ∈ pool) (hway : Way m pool way l)
    {left : Nat} (hleft : pool.length ≤ way.length + left) :
    Acc (fun next call ↦ Calls call next) (m, (l, r)) := by
  -- on the number of constructors that are left to enter, for all bindings that a call may meet
  induction left generalizing m l r way with
  | zero =>
    refine .intro _ fun ⟨m', a, b⟩ hcall ↦ ?_
    obtain ⟨-, -, -, -, entered, hentered⟩ := hcall.exists_way hpool hm hclosed hl hr hway
    have hlen := hentered.length_le
    rw [List.length_cons] at hlen
    omega
  | succ left ih =>
    refine .intro _ fun ⟨m', a, b⟩ hcall ↦ ?_
    obtain ⟨hm', hclosed', ha, hb, entered, hentered⟩ :=
      hcall.exists_way hpool hm hclosed hl hr hway
    refine ih hm' hclosed' ha hb hentered ?_
    rw [List.length_cons]
    omega

/-- On acyclic bindings the calls of unification do not go on forever. -/
theorem Acyclic.acc_calls (hm : m.Acyclic) (l r : TypeExpr) :
    Acc (fun next call ↦ Calls call next) (m, (l, r)) := by
  obtain ⟨pool, hpool, hclosed, hl, hr, -⟩ := exists_pool m l r
  exact Bindings.acc_calls hpool hm hclosed hl hr (Way.nil m pool l) (Nat.le_add_left _ _)

/-- On acyclic bindings the calls on the way to an instance do not go on forever. -/
theorem Acyclic.wellFounded_enters (hm : m.Acyclic) : WellFounded fun e' e ↦ m.Enters e e' := by
  have hparam : ∀ p e, m.resolve (.param p) = .ok e → (∀ q, e ≠ .param q) →
      Acc (fun e' e ↦ m.Enters e e') e := by
    intro p
    -- down the order of the bindings: what a parameter resolves to mentions later parameters only
    induction p using hm.transGen.induction with
    | h p ih =>
      intro e he hne
      cases hp : m.get? p with
      | none =>
        rw [resolve, resolveWithin_of_unbound hp] at he
        exact absurd (Except.ok.inj he).symm (hne p)
      | some bound =>
        have hlead := transGen_of_resolve hm hp he
        refine .intro _ ?_
        rintro e' ⟨q, hq, he', hne'⟩
        exact ih q (transGen_swap.2 (hlead q hq)) e' he' hne'
  refine ⟨fun e ↦ .intro _ ?_⟩
  rintro e' ⟨p, -, he', hne'⟩
  exact hparam p e' he' hne'

/-! ### The count of levels does not show -/

/-- A call depends on the calls on arguments only as far as it makes them. -/
theorem unifyStep_congr {K : Bindings → Prop} {recur recur' : Bindings → TypeExpr → TypeExpr →
      Except (Interrupted UnifyFault Bindings) Bindings}
    (hsame : ∀ m, K m → ∀ a b, Uncut (recur m a b) → recur' m a b = recur m a b)
    (hkeep : ∀ m, K m → ∀ a b m', recur' m a b = .ok m' → K m') (hm : K m)
    (h : Uncut (unifyStep recur m l r)) : unifyStep recur' m l r = unifyStep recur m l r := by
  unfold unifyStep at h ⊢
  cases hl : m.resolve l with
  | error c => rfl
  | ok a =>
    cases hr : m.resolve r with
    | error c => rfl
    | ok b =>
      rw [hl, hr] at h
      dsimp only at h ⊢
      split
      · rfl
      · rename_i hne
        rw [if_neg hne] at h
        -- only two constructors with the same head go on to their arguments
        cases a with
        | name s => cases b <;> rfl
        | param p => rfl
        | compound hd as =>
          cases b with
          | name s => rfl
          | param p => rfl
          | compound k bs =>
            dsimp only at h ⊢
            split
            · rename_i hsame'
              rw [if_pos hsame'] at h
              exact foldlM_eq_of_forall (fun m hm x _ ↦ hsame m hm x.1 x.2)
                (fun m hm x _ ↦ hkeep m hm x.1 x.2) hm h
            · rfl

/-- More levels change nothing unless a run is cut. -/
theorem unifyWithin_of_le (hle : levels ≤ levels') (h : Uncut (unifyWithin levels m l r)) :
    unifyWithin levels' m l r = unifyWithin levels m l r := by
  induction levels generalizing levels' m l r with
  | zero =>
    obtain ⟨_, _, hcause⟩ | ⟨_, hcause⟩ := h _ rfl <;> cases hcause
  | succ levels ih =>
    obtain ⟨levels', rfl⟩ := Nat.exists_eq_add_of_le' (Nat.le_trans (Nat.le_add_left 1 _) hle)
    rw [unifyWithin_succ] at h
    rw [unifyWithin_succ, unifyWithin_succ]
    exact unifyStep_congr (K := fun _ ↦ True) (fun m _ a b ↦ ih (Nat.le_of_succ_le_succ hle))
      (fun _ _ _ _ _ _ ↦ trivial) trivial h

/-- A number of levels that does not cut a run is as good as any other one. -/
theorem Acyclic.unify_eq_unifyWithin (hm : m.Acyclic) (h : Uncut (unifyWithin levels m l r)) :
    m.unify l r = unifyWithin levels m l r := by
  rcases Nat.le_total levels (m.descentBound l r) with hle | hle
  · exact unifyWithin_of_le hle h
  · exact (unifyWithin_of_le hle (hm.uncut_unify l r)).symm

/-- On acyclic bindings unification is what one call does, with unification itself for the calls on
arguments. -/
theorem Acyclic.unify_eq (hm : m.Acyclic) (l r : TypeExpr) :
    m.unify l r = unifyStep unify m l r := by
  have huncut := hm.uncut_unify l r
  -- with one level more than it takes, the first of them is the call itself
  have hsucc : unifyWithin (m.descentBound l r + 1) m l r = m.unify l r :=
    unifyWithin_of_le (Nat.le_succ _) huncut
  rw [unifyWithin_succ] at hsucc
  rw [← hsucc] at huncut
  rw [← hsucc]
  refine (unifyStep_congr (K := Acyclic) (fun m hm a b ↦ hm.unify_eq_unifyWithin) ?_ hm huncut).symm
  intro m hm a b m' hrun
  have hsolves := solves_unify hm a b
  rw [hrun] at hsolves
  exact hsolves.acyclic hm

/-! ### Unification ends -/

/-- A call for which neither levels nor the guards against cyclic bindings matter. -/
structure Unguarded (m : Bindings) (l r : TypeExpr) : Prop where
  /-- To instantiate a type in this call is a recursion that ends. -/
  instances : WellFounded fun e' e ↦ m.Enters e e'
  /-- Unification is what this call does, with unification itself for the calls on arguments. -/
  recursion : m.unify l r = unifyStep unify m l r
  /-- No more levels are needed than there are. -/
  levels : ∀ levels ≥ m.descentBound l r, unifyWithin levels m l r = m.unify l r
  /-- The call ends normally, at a conflict or at a type without text. -/
  uncut : Uncut (m.unify l r)

theorem Acyclic.unguarded (hm : m.Acyclic) (l r : TypeExpr) : Unguarded m l r where
  instances := hm.wellFounded_enters
  recursion := hm.unify_eq l r
  levels := fun _ hle ↦ unifyWithin_of_le hle (hm.uncut_unify l r)
  uncut := hm.uncut_unify l r

/-- From reachable bindings on the recursion of unification ends, on every two types: its calls do
not go on forever, and each one that is made, under the bindings that are there then, is what the
recursion says and ends normally, at a conflict or at a type without text. -/
theorem unify_ends (hm : Reachable m) (l r : TypeExpr) :
    Acc (fun next call ↦ Calls call next) (m, (l, r)) ∧
      ∀ m' l' r', ReflTransGen Calls (m, (l, r)) (m', (l', r')) → Unguarded m' l' r' := by
  refine ⟨hm.acyclic.acc_calls l r, fun m' l' r' hcalls ↦ ?_⟩
  have hacyclic : ∀ call, ReflTransGen Calls (m, (l, r)) call → call.1.Acyclic := by
    intro call hcall
    induction hcall with
    | refl => exact hm.acyclic
    | tail _ hstep ih => exact hstep.acyclic ih
  exact (hacyclic _ hcalls).unguarded l' r'

/-- With `$A` bound to `map[$B]$B` and `$B` to `map[$C]$C`, the parameter `$A` is unified with
`map[map[$D]int]$E` by going down two bindings, and what the first arguments bind is there for the
second ones. -/
theorem unify_ends_doubled :
    ∃ (m m' : Bindings) (l r : TypeExpr), Reachable m ∧
      m.entries = [(⟨"n", "A"⟩, .compound "map" [.param ⟨"n", "B"⟩, .param ⟨"n", "B"⟩]),
        (⟨"n", "B"⟩, .compound "map" [.param ⟨"n", "C"⟩, .param ⟨"n", "C"⟩])] ∧
      l = .param ⟨"n", "A"⟩ ∧ r = .compound "map"
        [.compound "map" [.param ⟨"k", "D"⟩, .name "int"], .param ⟨"k", "E"⟩] ∧
      m.unify l r = .ok m' ∧
      m'.entries = m.entries ++ [(⟨"n", "C"⟩, .param ⟨"k", "D"⟩), (⟨"k", "D"⟩, .name "int"),
        (⟨"k", "E"⟩, .compound "map" [.param ⟨"n", "C"⟩, .param ⟨"n", "C"⟩])] ∧
      Acc (fun next call ↦ Calls call next) (m, (l, r)) ∧
      ∀ m' l' r', ReflTransGen Calls (m, (l, r)) (m', (l', r')) → Unguarded m' l' r' := by
  have hfirst : Reachable (stateAfter ((∅ : Bindings).unify (.param ⟨"n", "A"⟩)
      (.compound "map" [.param ⟨"n", "B"⟩, .param ⟨"n", "B"⟩]))) := .unify .empty _ _
  have hm := hfirst.unify (.param ⟨"n", "B"⟩)
    (.compound "map" [.param ⟨"n", "C"⟩, .param ⟨"n", "C"⟩])
  have hreached : stateAfter (Bindings.unify (stateAfter ((∅ : Bindings).unify (.param ⟨"n", "A"⟩)
      (.compound "map" [.param ⟨"n", "B"⟩, .param ⟨"n", "B"⟩]))) (.param ⟨"n", "B"⟩)
        (.compound "map" [.param ⟨"n", "C"⟩, .param ⟨"n", "C"⟩])) = .ofList
      [(⟨"n", "A"⟩, .compound "map" [.param ⟨"n", "B"⟩, .param ⟨"n", "B"⟩]),
        (⟨"n", "B"⟩, .compound "map" [.param ⟨"n", "C"⟩, .param ⟨"n", "C"⟩])] := by
    cbv
  rw [hreached] at hm
  exact ⟨_, .ofList [(⟨"n", "A"⟩, .compound "map" [.param ⟨"n", "B"⟩, .param ⟨"n", "B"⟩]),
    (⟨"n", "B"⟩, .compound "map" [.param ⟨"n", "C"⟩, .param ⟨"n", "C"⟩]),
    (⟨"n", "C"⟩, .param ⟨"k", "D"⟩), (⟨"k", "D"⟩, .name "int"),
    (⟨"k", "E"⟩, .compound "map" [.param ⟨"n", "C"⟩, .param ⟨"n", "C"⟩])], _, _, hm, by cbv, rfl,
    rfl, by cbv, by cbv, unify_ends hm _ _⟩

end Bindings

end ChannelGraph
