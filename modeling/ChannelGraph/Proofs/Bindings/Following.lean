import ChannelGraph.Proofs.Bindings.Acyclic
import Mathlib.Data.List.Nodup
import Mathlib.Data.List.Perm.Subperm

/-!
# Following arbitrary bindings

Here nothing is asked of the bindings: they may lead back to themselves, at once or after a tail of
any length. `Bindings.Passes` follows them from a type, one after the other, and keeps the list of
the parameters that have been passed. It says nothing about when to stop, so the list may go on
for ever, with repetitions.

`resolve` stops at the first repetition, or where there is nothing to follow (`resolve_ends`). No
alarm is false, since a bound parameter that may no longer be entered has been passed
(`resolveWithin_cases`). None is missed, since what is passed is determined by where it starts, so
that nothing is repeated where the way ends (`ComesTo.not_repeats`).
-/

namespace ChannelGraph

namespace Bindings

variable {m : Bindings} {e x y r : TypeExpr} {p : TypeParam} {ps qs rest : List TypeParam}

/-! ### What is passed -/

/-- Following bindings from a type passes some bound parameters, the last one first, and comes to a
type. -/
inductive Passes (m : Bindings) (e : TypeExpr) : List TypeParam → TypeExpr → Prop
  /-- Nothing is followed yet. -/
  | start : Passes m e [] e
  /-- One more binding is followed. -/
  | step {ps : List TypeParam} {p : TypeParam} {x : TypeExpr} (h : Passes m e ps (.param p))
    (hp : m.get? p = some x) : Passes m e (p :: ps) x

/-- Following bindings comes to some parameter again. -/
def Repeats (m : Bindings) (e : TypeExpr) : Prop :=
  ∃ ps p, m.Passes e ps (.param p) ∧ p ∈ ps

/-- Following bindings comes to a parameter again, and to none again before. -/
def ComesBack (m : Bindings) (e : TypeExpr) (p : TypeParam) : Prop :=
  ∃ ps, m.Passes e ps (.param p) ∧ p ∈ ps ∧ ps.Nodup

/-- Following bindings comes to a type that is no bound parameter, and to no parameter twice
before. -/
def ComesTo (m : Bindings) (e r : TypeExpr) : Prop :=
  ∃ ps, m.Passes e ps r ∧ m.IsResolved r ∧ ps.Nodup

namespace Passes

/-- All parameters that are passed are bound. -/
theorem mem (h : m.Passes e ps x) : ∀ p ∈ ps, p ∈ m := by
  induction h with
  | start => exact fun p hp ↦ nomatch hp
  | step _ hp ih => exact List.forall_mem_cons.2 ⟨OrderedMap.mem_iff_exists.2 ⟨_, hp⟩, ih⟩

/-- Without repetitions not more is passed than there are bindings. -/
theorem length_le_size (h : m.Passes e ps x) (hps : ps.Nodup) : ps.length ≤ m.size := by
  have hkeys : ps.length ≤ m.keys.length := (hps.subperm h.mem).length_le
  rwa [OrderedMap.keys, List.length_map] at hkeys

/-- A given number of bindings can be followed in one way only. -/
theorem unique (h : m.Passes e ps x) (h' : m.Passes e qs y) (hlength : ps.length = qs.length) :
    ps = qs ∧ x = y := by
  induction h generalizing qs y with
  | start =>
    cases h' with
    | start => exact ⟨rfl, rfl⟩
    | step => cases hlength
  | step _ hp ih =>
    cases h' with
    | start => cases hlength
    | step h' hp' =>
      obtain ⟨rfl, hsame⟩ := ih h' (Nat.succ.inj hlength)
      cases hsame
      exact ⟨rfl, Option.some.inj (hp.symm.trans hp')⟩

/-- A type that is met before another one is a parameter, and it is the next one to be passed on the
way to the other. -/
theorem exists_suffix_of_length_lt (h : m.Passes e ps x) (h' : m.Passes e qs y)
    (hlt : ps.length < qs.length) : ∃ p, x = .param p ∧ p :: ps <:+ qs := by
  induction h' with
  | start => cases hlt
  | @step qs q _ hqs _ ih =>
    rcases Nat.lt_or_eq_of_le (Nat.le_of_lt_succ hlt) with hlt | heq
    · obtain ⟨p, hx, hsuffix⟩ := ih hlt
      exact ⟨p, hx, hsuffix.trans (List.suffix_cons q qs)⟩
    · obtain ⟨rfl, rfl⟩ := h.unique hqs heq
      exact ⟨q, rfl, List.suffix_rfl⟩

/-- No way goes on behind a type that is no bound parameter. -/
theorem length_le_of_isResolved (h : m.Passes e ps r) (hr : m.IsResolved r)
    (h' : m.Passes e qs y) : qs.length ≤ ps.length := by
  by_contra hlt
  obtain ⟨p, hp, hsuffix⟩ := h.exists_suffix_of_length_lt h' (Nat.lt_of_not_le hlt)
  have hbound : p ∈ m := h'.mem p (hsuffix.subset List.mem_cons_self)
  exact OrderedMap.get?_eq_none_iff.1 (hr p hp) hbound

/-- A way without repetitions does not go on behind a parameter that is met again. -/
theorem length_le_of_mem (h : m.Passes e ps (.param p)) (hp : p ∈ ps) (h' : m.Passes e qs y)
    (hqs : qs.Nodup) : qs.length ≤ ps.length := by
  by_contra hlt
  obtain ⟨q, hq, hsuffix⟩ := h.exists_suffix_of_length_lt h' (Nat.lt_of_not_le hlt)
  cases hq
  exact (List.nodup_cons.1 (hqs.sublist hsuffix.sublist)).1 hp

end Passes

/-! ### Following by the rule -/

/-- The parameters that may still be entered are the bound ones that have not been passed. -/
structure Remaining (m : Bindings) (ps rest : List TypeParam) : Prop where
  /-- None is listed twice. -/
  nodup : rest.Nodup
  /-- The bound parameters that have not been passed are listed. -/
  mem_iff : ∀ p, p ∈ rest ↔ p ∈ m ∧ p ∉ ps

/-- At the start all bound parameters remain. -/
theorem remaining_keys (m : Bindings) : m.Remaining [] m.keys where
  nodup := m.nodup_keys
  mem_iff := by simp [OrderedMap.mem_iff]

/-- A parameter that is passed does not remain. -/
theorem Remaining.erase (h : m.Remaining ps rest) (p : TypeParam) :
    m.Remaining (p :: ps) (rest.erase p) where
  nodup := h.nodup.erase p
  mem_iff := by
    intro q
    rw [h.nodup.mem_erase_iff, h.mem_iff, List.mem_cons, not_or]
    exact and_left_comm

/-- Whatever has been passed, the rule ends at the first parameter that is met again, or at the
first type that is no bound parameter. -/
theorem resolveWithin_cases (h : m.Passes e ps x) (hps : ps.Nodup) (hrest : m.Remaining ps rest) :
    (∃ p, m.resolveWithin rest x = .error ⟨p⟩ ∧ m.ComesBack e p) ∨
      ∃ r, m.resolveWithin rest x = .ok r ∧ m.ComesTo e r := by
  -- the parameters passed grow by what is taken out of those that may be entered
  fun_induction resolveWithin m rest x generalizing ps with
  | case1 rest p hp =>
    refine .inr ⟨_, rfl, ps, h, fun q hq ↦ ?_, hps⟩
    cases hq
    exact hp
  | case2 rest p bound hp hmem ih =>
    have hnew : p ∉ ps := ((hrest.mem_iff p).1 hmem).2
    exact ih (h.step hp) (List.nodup_cons.2 ⟨hnew, hps⟩) (hrest.erase p)
  | case3 rest p bound hp hmem =>
    have hbound : p ∈ m := OrderedMap.mem_iff_exists.2 ⟨bound, hp⟩
    have hpassed : p ∈ ps := by_contra fun hnew ↦ hmem ((hrest.mem_iff p).2 ⟨hbound, hnew⟩)
    exact .inl ⟨p, rfl, ps, h, hpassed, hps⟩
  | case4 rest x hx => exact .inr ⟨x, rfl, ps, h, fun p hp ↦ absurd hp (hx p), hps⟩

/-- Following ends in one of two ways: it comes back to a parameter, or it comes to a type. -/
theorem resolve_cases (m : Bindings) (e : TypeExpr) :
    (∃ p, m.resolve e = .error ⟨p⟩ ∧ m.ComesBack e p) ∨
      ∃ r, m.resolve e = .ok r ∧ m.ComesTo e r :=
  resolveWithin_cases .start List.nodup_nil m.remaining_keys

/-- There is only one parameter that following bindings from a type comes back to first. -/
theorem ComesBack.unique {q : TypeParam} (h : m.ComesBack e p) (h' : m.ComesBack e q) : p = q := by
  obtain ⟨ps, hps, hp, hnodup⟩ := h
  obtain ⟨qs, hqs, hq, hnodup'⟩ := h'
  have hlength : ps.length = qs.length :=
    Nat.le_antisymm (hqs.length_le_of_mem hq hps hnodup) (hps.length_le_of_mem hp hqs hnodup')
  cases (hps.unique hqs hlength).2
  rfl

/-- There is only one type that following bindings from a type comes to. -/
theorem ComesTo.unique {r' : TypeExpr} (h : m.ComesTo e r) (h' : m.ComesTo e r') : r = r' := by
  obtain ⟨ps, hps, hr, -⟩ := h
  obtain ⟨qs, hqs, hr', -⟩ := h'
  have hlength : ps.length = qs.length :=
    Nat.le_antisymm (hqs.length_le_of_isResolved hr' hps) (hps.length_le_of_isResolved hr hqs)
  exact (hps.unique hqs hlength).2

/-- To come back to a parameter is to meet it twice. -/
theorem ComesBack.repeats (h : m.ComesBack e p) : m.Repeats e := by
  obtain ⟨ps, hps, hp, -⟩ := h
  exact ⟨ps, p, hps, hp⟩

/-- Where following bindings comes to an end without repetitions, there are none at all. -/
theorem ComesTo.not_repeats (h : m.ComesTo e r) : ¬m.Repeats e := by
  obtain ⟨qs, hqs, hr, hnodup⟩ := h
  rintro ⟨ps, p, hps, hp⟩
  have hlength : ps.length = qs.length :=
    Nat.le_antisymm (hqs.length_le_of_isResolved hr hps) (hps.length_le_of_mem hp hqs hnodup)
  obtain ⟨-, rfl⟩ := hps.unique hqs hlength
  exact OrderedMap.get?_eq_none_iff.1 (hr p rfl) (hps.mem p hp)

/-- A cycle is reported exactly if following comes back to the parameter that is named. -/
theorem resolve_eq_error_iff : m.resolve e = .error ⟨p⟩ ↔ m.ComesBack e p := by
  rcases m.resolve_cases e with ⟨q, hq, hback⟩ | ⟨r, hr, hto⟩
  · refine ⟨fun h ↦ ?_, fun h ↦ by rw [hq, hback.unique h]⟩
    cases hq.symm.trans h
    exact hback
  · refine ⟨fun h ↦ ?_, fun h ↦ absurd h.repeats hto.not_repeats⟩
    cases hr.symm.trans h

/-- A type is given exactly if following comes to it. -/
theorem resolve_eq_ok_iff : m.resolve e = .ok r ↔ m.ComesTo e r := by
  rcases m.resolve_cases e with ⟨q, hq, hback⟩ | ⟨r', hr', hto⟩
  · refine ⟨fun h ↦ ?_, fun h ↦ absurd hback.repeats h.not_repeats⟩
    cases hq.symm.trans h
  · refine ⟨fun h ↦ ?_, fun h ↦ by rw [hr', hto.unique h]⟩
    cases hr'.symm.trans h
    exact hto

/-- Whatever the bindings are, following them from a type ends. It fails if and only if some
parameter is met again on the way, and then tells of the first one that is. Otherwise it gives the
first type on the way that is no bound parameter. When as many bindings have been followed as there
are, or earlier, the way has come to a parameter again or to its end. -/
theorem resolve_ends (m : Bindings) (e : TypeExpr) :
    ((∃ c, m.resolve e = .error c) ↔ m.Repeats e) ∧
      (∀ p, m.resolve e = .error ⟨p⟩ ↔ m.ComesBack e p) ∧
      (∀ r, m.resolve e = .ok r ↔ m.ComesTo e r) ∧
      ∃ ps x, m.Passes e ps x ∧ ps.length ≤ m.size ∧
        (m.IsResolved x ∨ ∃ p ∈ ps, x = .param p) := by
  refine ⟨?_, fun p ↦ resolve_eq_error_iff, fun r ↦ resolve_eq_ok_iff, ?_⟩
  · rcases m.resolve_cases e with ⟨p, hp, hback⟩ | ⟨r, hr, hto⟩
    · exact ⟨fun _ ↦ hback.repeats, fun _ ↦ ⟨_, hp⟩⟩
    · refine ⟨fun ⟨c, hc⟩ ↦ ?_, fun h ↦ absurd h hto.not_repeats⟩
      cases hr.symm.trans hc
  · rcases m.resolve_cases e with ⟨p, -, ps, hps, hp, hnodup⟩ | ⟨r, -, ps, hps, hr, hnodup⟩
    · exact ⟨ps, _, hps, hps.length_le_size hnodup, .inr ⟨p, hp, rfl⟩⟩
    · exact ⟨ps, r, hps, hps.length_le_size hnodup, .inl hr⟩

/-- Behind a tail of two parameters the bindings go round between the next two. -/
example : resolve (.ofList [(⟨"n", "A"⟩, .param ⟨"n", "B"⟩), (⟨"n", "B"⟩, .param ⟨"k", "C"⟩),
      (⟨"k", "C"⟩, .param ⟨"k", "D"⟩), (⟨"k", "D"⟩, .param ⟨"k", "C"⟩)]) (.param ⟨"n", "A"⟩) =
    .error ⟨⟨"k", "C"⟩⟩ := by
  cbv

end Bindings

end ChannelGraph
