import ChannelGraph.OrderedMap
import Mathlib.Data.List.Basic
import Mathlib.Data.List.Nodup

/-!
# More on maps that keep insertion order

Maps are compared through their keys and their view (`OrderedMap.ext_keys`). Beside the equations
for single operations there are those for the loops that build or change a map: inserting
under different keys one after the other lists them in that order (`foldlM_insert_eq_ok`,
`entries_ofList`), a function that does not fail is done to every value (`exists_tryMap`), and
changing the value of every key in turn changes all values (`foldl_modify_entries`).
-/

namespace ChannelGraph

namespace OrderedMap

variable {κ α β ε : Type}

/-- The value of an entry is one of the values. -/
theorem mem_values_of_mem_entries {m : OrderedMap κ α} {e : κ × α} (h : e ∈ m.entries) :
    e.2 ∈ m.values :=
  List.mem_map.2 ⟨e, h, rfl⟩

theorem keys_filter (p : κ → α → Bool) (m : OrderedMap κ α) :
    (m.filter p).keys = (m.entries.filter fun e ↦ p e.1 e.2).map Prod.fst :=
  rfl

/-- Keeping entries by their keys keeps these keys. -/
theorem keys_filter_keys (p : κ → Bool) (m : OrderedMap κ α) :
    (m.filter fun k _ ↦ p k).keys = m.keys.filter p :=
  (List.filter_map ..).symm

/-- The entries under some keys may be taken before or after all values are changed. -/
theorem map_filter_keys (f : κ → α → β) (p : κ → Bool) (m : OrderedMap κ α) :
    (m.filter fun k _ ↦ p k).map f = (m.map f).filter fun k _ ↦ p k :=
  ext (List.filter_map (p := fun e : κ × β ↦ p e.1) (f := fun e : κ × α ↦ (e.1, f e.1 e.2))).symm

theorem mem_filter_keys {p : κ → Bool} {m : OrderedMap κ α} {k : κ} :
    k ∈ (m.filter fun k _ ↦ p k) ↔ k ∈ m ∧ p k = true := by
  rw [mem_iff, keys_filter_keys, List.mem_filter, mem_iff]

theorem mem_map {f : κ → α → β} {m : OrderedMap κ α} {k : κ} : k ∈ m.map f ↔ k ∈ m := by
  rw [mem_iff, keys_map, mem_iff]

/-- Two changes of all values are one. -/
theorem map_map {γ : Type} (f : κ → α → β) (f' : κ → β → γ) (m : OrderedMap κ α) :
    (m.map f).map f' = m.map fun k a ↦ f' k (f k a) :=
  ext (List.map_map)

theorem map_id (m : OrderedMap κ α) : (m.map fun _ a ↦ a) = m :=
  ext (List.map_id' m.entries)

/-- Keeping entries in two steps is keeping those that pass both tests. -/
theorem filter_filter (p q : κ → α → Bool) (m : OrderedMap κ α) :
    (m.filter p).filter q = m.filter fun k a ↦ p k a && q k a := by
  apply ext
  refine (List.filter_filter ..).trans (List.filter_congr fun e _ ↦ ?_)
  exact Bool.and_comm _ _

variable [DecidableEq κ]

/-- Maps with the same keys in the same order and the same values there are equal. -/
theorem ext_keys {m n : OrderedMap κ α} (hkeys : m.keys = n.keys)
    (h : ∀ k ∈ m.keys, m.get? k = n.get? k) : m = n := by
  apply ext
  have hvalues : ∀ e ∈ m.entries, ∀ e' ∈ n.entries, e.1 = e'.1 → e = e' := by
    rintro ⟨k, a⟩ he ⟨k', b⟩ he' rfl
    have hk : k ∈ m.keys := List.mem_map_of_mem he
    rw [← get?_eq_some_iff] at he he'
    rw [h k hk, he'] at he
    rw [Option.some.inj he]
  have hlen : m.entries.length = n.entries.length := by
    simpa [keys] using congrArg List.length hkeys
  refine List.ext_getElem hlen fun i hi hi' ↦ ?_
  refine hvalues _ (List.getElem_mem hi) _ (List.getElem_mem hi') ?_
  have hfst := List.getElem_of_eq hkeys (i := i) (by simpa [keys] using hi)
  simpa [keys] using hfst

/-- Maps are equal if they have the same keys in the same order and the same values under them. -/
theorem ext_get? {m n : OrderedMap κ α} (hkeys : m.keys = n.keys)
    (h : ∀ k, m.get? k = n.get? k) : m = n :=
  ext_keys hkeys fun k _ ↦ h k

/-- What is found after filtering is what was found before, if it passes. -/
theorem get?_filter (p : κ → α → Bool) (m : OrderedMap κ α) (k : κ) :
    (m.filter p).get? k = (m.get? k).filter (p k) := by
  apply Option.ext
  intro a
  rw [get?_eq_some_iff, Option.filter_eq_some_iff, get?_eq_some_iff]
  exact List.mem_filter

theorem get?_filter_keys {p : κ → Bool} {m : OrderedMap κ α} {k : κ} {a : α} :
    (m.filter fun k _ ↦ p k).get? k = some a ↔ m.get? k = some a ∧ p k = true := by
  rw [get?_filter, Option.filter_eq_some_iff]

/-- What is found after erasing a key was found before, under another key. -/
theorem get?_erase_eq_some_iff {m : OrderedMap κ α} {k k' : κ} {a : α} :
    (m.erase k).get? k' = some a ↔ k' ≠ k ∧ m.get? k' = some a := by
  rw [get?_erase]
  split <;> simp [*]

/-- What a map has for a key is among its values. -/
theorem mem_values_of_get? {m : OrderedMap κ α} {k : κ} {a : α} (h : m.get? k = some a) :
    a ∈ m.values :=
  mem_values_of_mem_entries (get?_eq_some_iff.1 h)

theorem exists_get?_of_mem_values {m : OrderedMap κ α} {a : α} (h : a ∈ m.values) :
    ∃ k, m.get? k = some a := by
  obtain ⟨e, he, rfl⟩ := List.mem_map.1 h
  exact ⟨e.1, get?_eq_some_iff.2 he⟩

/-- Maps with the same keys have values under the same keys. -/
theorem exists_get?_of_keys_eq {m : OrderedMap κ α} {m' : OrderedMap κ β} (hkeys : m'.keys = m.keys)
    {k : κ} {b : β} (h : m'.get? k = some b) : ∃ a, m.get? k = some a := by
  have hk : k ∈ m' := mem_iff_exists.2 ⟨b, h⟩
  rw [mem_iff, hkeys] at hk
  exact mem_iff_exists.1 hk

/-- A new key comes behind all entries. -/
theorem entries_insert_of_not_mem {m : OrderedMap κ α} {k : κ} (h : k ∉ m) (a : α) :
    (m.insert k a).entries = m.entries ++ [(k, a)] := by
  have hes : ∀ es : List (κ × α), k ∉ es.map Prod.fst → insertEntry k a es = es ++ [(k, a)] := by
    intro es hk
    induction es with
    | nil => rfl
    | cons e es ih =>
      rw [List.map_cons, List.mem_cons, not_or] at hk
      rw [insertEntry, if_neg fun he ↦ hk.1 he.symm, ih hk.2, List.cons_append]
  exact hes m.entries h

/-- Only the entries of a map matter to a change of its values. -/
theorem map_congr {f f' : κ → α → β} {m : OrderedMap κ α}
    (h : ∀ k a, m.get? k = some a → f k a = f' k a) : m.map f = m.map f' := by
  apply ext_get?
  · rw [keys_map, keys_map]
  · intro k
    rw [get?_map, get?_map]
    cases hk : m.get? k with
    | none => rfl
    | some a => exact congrArg some (h k a hk)

/-- A change of all values does not see another one before it that makes no difference to it. -/
theorem map_modify_of_forall {F : κ → α → β} {m : OrderedMap κ α} {k : κ} {f : α → α}
    (h : ∀ a, m.get? k = some a → F k (f a) = F k a) : (m.modify k f).map F = m.map F := by
  rw [modify, map_map]
  refine map_congr fun k' a ha ↦ ?_
  split
  · rename_i hk
    subst hk
    exact h a ha
  · rfl

theorem modify_of_not_mem {m : OrderedMap κ α} {k : κ} (h : k ∉ m) (f : α → α) :
    m.modify k f = m := by
  refine (map_congr fun k' a ha ↦ ?_).trans (map_id m)
  refine if_neg ?_
  rintro rfl
  exact h (mem_iff_exists.2 ⟨a, ha⟩)

theorem modify_modify (m : OrderedMap κ α) (k : κ) (f f' : α → α) :
    (m.modify k f).modify k f' = m.modify k fun a ↦ f' (f a) := by
  apply ext_get?
  · rw [keys_modify, keys_modify, keys_modify]
  · intro k'
    rw [get?_modify, get?_modify, get?_modify]
    split
    · rw [Option.map_map]
      rfl
    · rfl

/-! ### Loops -/

/-- Inserting computed values under different keys lists them in the order of the loop. -/
theorem foldlM_insert_eq_ok {xs : List β} {key : β → κ} {compute : β → Except ε α} {value : β → α}
    (hcompute : ∀ x ∈ xs, compute x = .ok (value x)) (hkeys : (xs.map key).Nodup) :
    ∃ m : OrderedMap κ α,
      xs.foldlM (fun m x ↦ (compute x).map fun a ↦ m.insert (key x) a) ∅ = .ok m ∧
        m.entries = xs.map fun x ↦ (key x, value x) := by
  suffices h : ∀ m : OrderedMap κ α, (∀ x ∈ xs, key x ∉ m) → ∃ m' : OrderedMap κ α,
      xs.foldlM (fun m x ↦ (compute x).map fun a ↦ m.insert (key x) a) m = .ok m' ∧
        m'.entries = m.entries ++ xs.map fun x ↦ (key x, value x) by
    exact h ∅ fun x _ ↦ List.not_mem_nil
  induction xs with
  | nil => exact fun m _ ↦ ⟨m, rfl, by rw [List.map_nil, List.append_nil]⟩
  | cons x xs ih =>
    intro m hm
    rw [List.map_cons, List.nodup_cons] at hkeys
    obtain ⟨hx, hxs⟩ := List.forall_mem_cons.1 hcompute
    have hnew : ∀ y ∈ xs, key y ∉ m.insert (key x) (value x) := by
      intro y hy hmem
      rcases mem_insert.1 hmem with heq | hmem
      · exact hkeys.1 (heq ▸ List.mem_map.2 ⟨y, hy, rfl⟩)
      · exact hm y (List.mem_cons_of_mem _ hy) hmem
    obtain ⟨m', hrun, hentries⟩ := ih hxs hkeys.2 (m.insert (key x) (value x)) hnew
    refine ⟨m', ?_, ?_⟩
    · rw [List.foldlM_cons, hx]
      exact hrun
    · rw [hentries, entries_insert_of_not_mem (hm x List.mem_cons_self), List.append_assoc]
      rfl

/-- Entries with different keys are listed as they are. -/
theorem entries_ofList {es : List (κ × α)} (hkeys : (es.map Prod.fst).Nodup) :
    (ofList es).entries = es := by
  suffices h : ∀ m : OrderedMap κ α, (∀ e ∈ es, e.1 ∉ m) →
      (es.foldl (fun m e ↦ m.insert e.1 e.2) m).entries = m.entries ++ es from
    h ∅ fun _ _ ↦ List.not_mem_nil
  induction es with
  | nil => exact fun m _ ↦ (List.append_nil _).symm
  | cons e es ih =>
    intro m hm
    rw [List.map_cons, List.nodup_cons] at hkeys
    have hnew : ∀ e' ∈ es, e'.1 ∉ m.insert e.1 e.2 := by
      intro e' he' hmem
      rcases mem_insert.1 hmem with heq | hmem
      · exact hkeys.1 (heq ▸ List.mem_map.2 ⟨e', he', rfl⟩)
      · exact hm e' (List.mem_cons_of_mem _ he') hmem
    rw [List.foldl_cons, ih hkeys.2 _ hnew, entries_insert_of_not_mem (hm e List.mem_cons_self),
      List.append_assoc]
    rfl

/-- A map is built again from its entries. -/
theorem ofList_entries (m : OrderedMap κ α) : ofList m.entries = m :=
  ext (entries_ofList m.nodup)

/-- Every entry of a map that was made from a list is in the list. -/
theorem mem_of_mem_ofList {es : List (κ × α)} {e : κ × α} (h : e ∈ (ofList es).entries) :
    e ∈ es := by
  have hinsert : ∀ (k : κ) (a : α) (es : List (κ × α)),
      ∀ e ∈ insertEntry k a es, e = (k, a) ∨ e ∈ es := by
    intro k a es
    induction es with
    | nil => exact fun e he ↦ .inl (List.mem_singleton.1 he)
    | cons e' es ih =>
      intro e he
      rw [insertEntry] at he
      split at he
      · exact (List.mem_cons.1 he).imp_right (List.mem_cons_of_mem _)
      · rcases List.mem_cons.1 he with rfl | he
        · exact .inr List.mem_cons_self
        · exact (ih e he).imp_right (List.mem_cons_of_mem _)
  suffices hloop : ∀ m : OrderedMap κ α,
      e ∈ (es.foldl (fun m e ↦ m.insert e.1 e.2) m).entries → e ∈ m.entries ∨ e ∈ es from
    (hloop ∅ h).resolve_left List.not_mem_nil
  clear h
  induction es with
  | nil => exact fun _ ↦ .inl
  | cons e' es ih =>
    intro m hm
    rcases ih (m.insert e'.1 e'.2) hm with hmem | hmem
    · rcases hinsert e'.1 e'.2 m.entries e hmem with rfl | hmem
      · exact .inr List.mem_cons_self
      · exact .inl hmem
    · exact .inr (List.mem_cons_of_mem _ hmem)

/-- Where a function fails for no entry, its results stand under the old keys in the old order. -/
theorem exists_tryMap {f : κ → α → Except ε β} {P : κ → α → β → Prop} {m : OrderedMap κ α}
    (h : ∀ k a, m.get? k = some a → ∃ b, f k a = .ok b ∧ P k a b) :
    ∃ m', m.tryMap f = .ok m' ∧ m'.keys = m.keys ∧
      ∀ k a, m.get? k = some a → ∃ b, m'.get? k = some b ∧ P k a b := by
  -- the results stand in the order of the entries, so keys are compared as lists
  have hloop : ∀ es : List (κ × α), (∀ e ∈ es, ∃ b, f e.1 e.2 = .ok b ∧ P e.1 e.2 b) →
      ∃ es', (es.mapM fun e ↦ (f e.1 e.2).map (e.1, ·)) = .ok es' ∧
        es'.map Prod.fst = es.map Prod.fst ∧ ∀ e ∈ es, ∃ b, (e.1, b) ∈ es' ∧ P e.1 e.2 b := by
    intro es
    induction es with
    | nil => exact fun _ ↦ ⟨[], rfl, rfl, fun _ he ↦ nomatch he⟩
    | cons e es ih =>
      intro hes
      obtain ⟨⟨b, hb, hP⟩, hes⟩ := List.forall_mem_cons.1 hes
      obtain ⟨es', hrun, hkeys, hvalues⟩ := ih hes
      refine ⟨(e.1, b) :: es', ?_, ?_, ?_⟩
      · rw [List.mapM_cons, hb, hrun]
        rfl
      · rw [List.map_cons, List.map_cons, hkeys]
      · refine List.forall_mem_cons.2 ⟨⟨b, List.mem_cons_self, hP⟩, fun e' he' ↦ ?_⟩
        obtain ⟨b', hb', hP'⟩ := hvalues e' he'
        exact ⟨b', List.mem_cons_of_mem _ hb', hP'⟩
  obtain ⟨es', hrun, hkeys, hvalues⟩ :=
    hloop m.entries fun e he ↦ h e.1 e.2 (get?_eq_some_iff.2 he)
  have hentries : (ofList es').entries = es' := entries_ofList (hkeys ▸ m.nodup)
  refine ⟨ofList es', ?_, ?_, fun k a ha ↦ ?_⟩
  · rw [tryMap, hrun]
    rfl
  · rw [keys, hentries, hkeys]
    rfl
  · obtain ⟨b, hb, hP⟩ := hvalues (k, a) (get?_eq_some_iff.1 ha)
    refine ⟨b, get?_eq_some_iff.2 ?_, hP⟩
    rw [hentries]
    exact hb

/-- Where what is done to the values of two maps with the same keys agrees, it gives the same
map. -/
theorem map_eq_map {γ : Type} {f : κ → α → γ} {f' : κ → β → γ} {m : OrderedMap κ α}
    {m' : OrderedMap κ β} (hkeys : m'.keys = m.keys)
    (h : ∀ k a, m.get? k = some a → ∃ b, m'.get? k = some b ∧ f' k b = f k a) :
    m'.map f' = m.map f := by
  apply ext_get?
  · rw [keys_map, keys_map, hkeys]
  · intro k
    rw [get?_map, get?_map]
    cases hk : m.get? k with
    | none =>
      have hk' : m'.get? k = none := by
        rw [get?_eq_none_iff, mem_iff, hkeys, ← mem_iff, ← get?_eq_none_iff, hk]
      rw [hk']
      rfl
    | some a =>
      obtain ⟨b, hb, heq⟩ := h k a hk
      rw [hb, Option.map_some, Option.map_some, heq]

/-- Changing values in turn, each key at most once. -/
theorem get?_foldl_modify {es : List (κ × β)} (hkeys : (es.map Prod.fst).Nodup)
    (f : κ × β → α → α) (m : OrderedMap κ α) (k : κ) :
    (es.foldl (fun m e ↦ m.modify e.1 (f e)) m).get? k =
      match es.lookup k with
      | none => m.get? k
      | some b => (m.get? k).map (f (k, b)) := by
  induction es generalizing m with
  | nil => rfl
  | cons e es ih =>
    obtain ⟨k', b⟩ := e
    rw [List.map_cons, List.nodup_cons] at hkeys
    rw [List.foldl_cons, ih hkeys.2, get?_modify, List.lookup_cons]
    by_cases h : k = k'
    · subst h
      have hnone : es.lookup k = none := by
        rw [List.lookup_eq_none_iff]
        intro p hp
        exact bne_iff_ne.2 fun heq ↦ hkeys.1 (List.mem_map.2 ⟨p, hp, heq.symm⟩)
      rw [hnone, beq_self_eq_true, if_pos rfl]
    · rw [if_neg h, beq_false_of_ne h]

/-- However many values are changed, the keys and their order stay. -/
theorem keys_foldl_modify (es : List (κ × β)) (f : κ × β → α → α) (m : OrderedMap κ α) :
    (es.foldl (fun m e ↦ m.modify e.1 (f e)) m).keys = m.keys := by
  induction es generalizing m with
  | nil => rfl
  | cons e es ih => rw [List.foldl_cons, ih, keys_modify]

/-- Changing the value of every key of another map with the same keys changes all values. -/
theorem foldl_modify_entries {n : OrderedMap κ β} {m : OrderedMap κ α} (hkeys : n.keys = m.keys)
    (f : κ × β → α → α) :
    n.entries.foldl (fun m e ↦ m.modify e.1 (f e)) m =
      m.map fun k a ↦ ((n.get? k).map fun b ↦ f (k, b) a).getD a := by
  apply ext_get?
  · rw [keys_foldl_modify, keys_map]
  · intro k
    rw [get?_foldl_modify n.nodup, get?_map]
    show (match n.get? k with | none => _ | some b => _) = _
    cases hn : n.get? k with
    | some b => rfl
    | none =>
      have hm : m.get? k = none := by
        rw [get?_eq_none_iff, mem_iff, ← hkeys]
        exact get?_eq_none_iff.1 hn
      rw [hm]
      rfl

end OrderedMap

end ChannelGraph
