import Mathlib.Data.List.Basic
import Mathlib.Data.List.Nodup

/-!
# More on lists

A test that is passed more often than another one (`countP_lt_countP`), the front of a list that a
test ends (`takeWhile_append_of_head`, `dropWhile_append_of_head`, `takeWhile_congr`), two elements
of a list that are compared by what is in front of them (`prefix_concat_cases`), loops that may
stop, seen along all elements (`foldlM_cases`, `rel_of_foldlM_eq_ok`), at one of their steps
(`exists_of_foldlM_eq_ok`, `exists_of_foldlM_eq_error`) or beside a loop with the same steps
(`foldlM_eq_of_forall`), and lists without their repetitions: nothing occurs twice in them
(`nodup_eraseDups`), and they can be taken before or after an injective map (`eraseDups_map`).
-/

namespace ChannelGraph

variable {α β : Type}

theorem takeWhile_append_of_head {p : α → Bool} {front rest : List α} (hfront : ∀ a ∈ front, p a)
    (hrest : ∀ a ∈ rest.head?, p a = false) : (front ++ rest).takeWhile p = front := by
  rw [List.takeWhile_append_of_pos hfront]
  cases rest with
  | nil => simp
  | cons a rest => simp [hrest a rfl]

theorem dropWhile_append_of_head {p : α → Bool} {front rest : List α} (hfront : ∀ a ∈ front, p a)
    (hrest : ∀ a ∈ rest.head?, p a = false) : (front ++ rest).dropWhile p = rest := by
  rw [List.dropWhile_append_of_pos hfront]
  cases rest with
  | nil => rfl
  | cons a rest => simp [hrest a rfl]

theorem takeWhile_congr {p q : α → Bool} {xs : List α} (h : ∀ a ∈ xs, p a = q a) :
    xs.takeWhile p = xs.takeWhile q := by
  induction xs with
  | nil => rfl
  | cons a xs ih =>
    obtain ⟨ha, hxs⟩ := List.forall_mem_cons.1 h
    rw [List.takeWhile_cons, List.takeWhile_cons, ha, ih hxs]

/-- Where one test is passed whenever another one is, and once without it, it is passed more
often. -/
theorem countP_lt_countP {p q : α → Bool} {xs : List α} (hpq : ∀ x ∈ xs, p x → q x)
    (hstrict : ∃ x ∈ xs, q x ∧ ¬p x) : xs.countP p < xs.countP q := by
  induction xs with
  | nil => obtain ⟨x, hx, -⟩ := hstrict; cases hx
  | cons a as ih =>
    obtain ⟨ha, has⟩ := List.forall_mem_cons.1 hpq
    have hle : as.countP p ≤ as.countP q := List.countP_mono_left has
    obtain ⟨x, hx, hqx, hpx⟩ := hstrict
    rw [List.countP_cons, List.countP_cons]
    rcases List.mem_cons.1 hx with rfl | hx
    · rw [if_neg hpx, if_pos hqx]
      omega
    · have hlt := ih has ⟨x, hx, hqx, hpx⟩
      split
      · rename_i hpa
        rw [if_pos (ha hpa)]
        omega
      · split <;> omega

/-- Of two elements of a list, with what is in front of them, one comes first or they are the
same. -/
theorem prefix_concat_cases {xs ys zs : List α} {x y : α} (hx : xs ++ [x] <+: zs)
    (hy : ys ++ [y] <+: zs) : xs ++ [x] <+: ys ∨ ys ++ [y] <+: xs ∨ xs = ys ∧ x = y := by
  rcases List.prefix_or_prefix_of_prefix hx hy with h | h
  · rcases List.prefix_concat_iff.1 h with heq | h
    · exact .inr (.inr (List.append_singleton_inj.1 heq))
    · exact .inl h
  · rcases List.prefix_concat_iff.1 h with heq | h
    · obtain ⟨rfl, rfl⟩ := List.append_singleton_inj.1 heq
      exact .inr (.inr ⟨rfl, rfl⟩)
    · exact .inr (.inl h)

section Loops

variable {ε σ : Type} {f f' : σ → α → Except ε σ} {xs : List α} {s : σ}

/-- A loop depends only on its steps at the elements of the list. -/
theorem foldlM_congr (h : ∀ x ∈ xs, ∀ s, f s x = f' s x) : xs.foldlM f s = xs.foldlM f' s := by
  induction xs generalizing s with
  | nil => rfl
  | cons x xs ih =>
    obtain ⟨hx, hxs⟩ := List.forall_mem_cons.1 h
    rw [List.foldlM_cons, List.foldlM_cons, hx]
    exact congrArg _ (funext fun _ ↦ ih hxs)

/-- Where two loops make the same steps, as long as the first one is not stopped by one of some
causes, they do the same if it is not stopped so. What the states keep may be used. -/
theorem foldlM_eq_of_forall {fine : ε → Prop} {K : σ → Prop}
    (hsame : ∀ s, K s → ∀ x ∈ xs, (∀ i, f s x = .error i → fine i) → f' s x = f s x)
    (hkeep : ∀ s, K s → ∀ x ∈ xs, ∀ s', f' s x = .ok s' → K s') (hs : K s)
    (h : ∀ i, xs.foldlM f s = .error i → fine i) : xs.foldlM f' s = xs.foldlM f s := by
  induction xs generalizing s with
  | nil => rfl
  | cons x xs ih =>
    rw [List.foldlM_cons] at h
    have hx : f' s x = f s x := by
      refine hsame s hs x List.mem_cons_self fun i hi ↦ h i ?_
      rw [hi]
      rfl
    rw [List.foldlM_cons, List.foldlM_cons, hx]
    cases hrun : f s x with
    | error i => rfl
    | ok s' =>
      rw [hrun] at h hx
      exact ih (fun s hs y hy ↦ hsame s hs y (List.mem_cons_of_mem _ hy))
        (fun s hs y hy ↦ hkeep s hs y (List.mem_cons_of_mem _ hy))
        (hkeep s hs x List.mem_cons_self s' hx) h

/-- A loop that does not stop passes every element. -/
theorem exists_of_foldlM_eq_ok {s' : σ} (h : xs.foldlM f s = .ok s') {x : α} (hx : x ∈ xs) :
    ∃ s₁ s₂, f s₁ x = .ok s₂ := by
  induction xs generalizing s with
  | nil => cases hx
  | cons a as ih =>
    rw [List.foldlM_cons] at h
    cases hrun : f s a with
    | error i =>
      rw [hrun] at h
      cases h
    | ok s₁ =>
      rw [hrun] at h
      rcases List.mem_cons.1 hx with rfl | hx
      · exact ⟨s, s₁, hrun⟩
      · exact ih h hx

/-- A loop that keeps something, depending on the elements that it has passed, passes all of them or
is stopped at one. -/
theorem foldlM_cases {P : List α → σ → Prop} (hs : P [] s)
    (hstep : ∀ seen x rest s s', xs = seen ++ x :: rest → P seen s → f s x = .ok s' →
      P (seen ++ [x]) s') :
    (∃ s', xs.foldlM f s = .ok s' ∧ P xs s') ∨
      ∃ seen x rest s' i, xs = seen ++ x :: rest ∧ P seen s' ∧ f s' x = .error i ∧
        xs.foldlM f s = .error i := by
  -- in the middle of the loop some elements have been passed and others are to come
  have hloop : ∀ rest seen s, xs = seen ++ rest → P seen s →
      (∃ s', rest.foldlM f s = .ok s' ∧ P xs s') ∨
        ∃ seen x rest' s' i, xs = seen ++ x :: rest' ∧ P seen s' ∧ f s' x = .error i ∧
          rest.foldlM f s = .error i := by
    intro rest
    induction rest with
    | nil =>
      intro seen s hxs hseen
      rw [List.append_nil] at hxs
      exact .inl ⟨s, rfl, hxs ▸ hseen⟩
    | cons x rest ih =>
      intro seen s hxs hseen
      rw [List.foldlM_cons]
      cases hrun : f s x with
      | error i => exact .inr ⟨seen, x, rest, s, i, hxs, hseen, hrun, rfl⟩
      | ok s' =>
        have hnext := hstep seen x rest s s' hxs hseen hrun
        exact ih (seen ++ [x]) s' (by rw [hxs, List.append_assoc]; rfl) hnext
  exact hloop xs [] s rfl hs

/-- Where a loop comes to its end, its states before and after are related as those of its steps. -/
theorem rel_of_foldlM_eq_ok {R : σ → σ → Prop} (hrefl : ∀ s, R s s)
    (htrans : ∀ {s s' s''}, R s s' → R s' s'' → R s s'')
    (hstep : ∀ {s x s'}, f s x = .ok s' → R s s') {s' : σ} (h : xs.foldlM f s = .ok s') :
    R s s' := by
  obtain ⟨t, hrun, ht⟩ | ⟨-, -, -, -, i, -, -, -, hrun⟩ :=
    foldlM_cases (f := f) (P := fun _ ↦ R s) (hrefl s)
      fun _ _ _ _ _ _ hR hrun ↦ htrans hR (hstep hrun)
  · rwa [Except.ok.inj (h.symm.trans hrun)]
  · cases h.symm.trans hrun

/-- A loop stops because one of its steps does. -/
theorem exists_of_foldlM_eq_error {i : ε} (h : xs.foldlM f s = .error i) :
    ∃ s' a, f s' a = .error i := by
  induction xs generalizing s with
  | nil => cases h
  | cons a as ih =>
    rw [List.foldlM_cons] at h
    cases hrun : f s a with
    | error i' =>
      rw [hrun] at h
      cases h
      exact ⟨s, a, hrun⟩
    | ok s' =>
      rw [hrun] at h
      exact ih h

end Loops

section EraseDups

variable [DecidableEq α] [DecidableEq β]

/-- Induction along the removal of repetitions: behind the first element the list is taken without
that element. -/
@[elab_as_elim]
theorem eraseDups_induction {motive : List α → Prop} (nil : motive [])
    (cons : ∀ a as, motive (as.filter fun b ↦ !b == a) → motive (a :: as)) (xs : List α) :
    motive xs := by
  induction hlen : xs.length using Nat.strongRecOn generalizing xs with
  | _ n ih =>
    cases xs with
    | nil => exact nil
    | cons a as =>
      refine cons a as (ih _ ?_ _ rfl)
      rw [← hlen, List.length_cons]
      exact Nat.lt_succ_of_le (List.length_filter_le _ _)

/-- Without repetitions nothing occurs twice. -/
theorem nodup_eraseDups (xs : List α) : xs.eraseDups.Nodup := by
  induction xs using eraseDups_induction with
  | nil => exact List.nodup_nil
  | cons a as ih =>
    rw [List.eraseDups_cons, List.nodup_cons]
    refine ⟨fun hmem ↦ ?_, ih⟩
    have hne := List.of_mem_filter (List.mem_eraseDups.1 hmem)
    simp at hne

/-- An injective map may be applied before or after repetitions are removed. -/
theorem eraseDups_map {f : α → β} (hf : f.Injective) (xs : List α) :
    (xs.map f).eraseDups = xs.eraseDups.map f := by
  induction xs using eraseDups_induction with
  | nil => rfl
  | cons a as ih =>
    have hfilter : (as.map f).filter (fun b ↦ !b == f a) = (as.filter fun b ↦ !b == a).map f := by
      rw [List.filter_map]
      congr 2
      funext b
      simp [hf.eq_iff]
    rw [List.map_cons, List.eraseDups_cons, hfilter, ih, List.eraseDups_cons, List.map_cons]

end EraseDups

end ChannelGraph
