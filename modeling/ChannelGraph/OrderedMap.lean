/-!
# Maps that keep insertion order

A map is the list of its entries, in the order in which their keys were first inserted; no
key occurs twice. Writing to a key that is present changes the value in place and never the
order. All that is visible of a map is this list, so two maps are equal exactly when they
have the same entries in the same order (`OrderedMap.ext`).

The view through which every operation is described is `get?` (`get?_insert`, `get?_erase`),
together with `keys` for the order (`keys_insert`).
-/

namespace ChannelGraph

/-- A finite map whose entries stand in the order of first insertion. -/
structure OrderedMap (κ : Type) (α : Type) where
  /-- The entries, first inserted first. -/
  entries : List (κ × α)
  /-- No key occurs twice. -/
  nodup : (entries.map Prod.fst).Nodup
deriving DecidableEq

namespace OrderedMap

variable {κ α β : Type}

/-- All there is to a map is the list of its entries. -/
theorem ext {m n : OrderedMap κ α} (h : m.entries = n.entries) : m = n := by
  cases m; cases n; cases h; rfl

/-- The map without entries. -/
def empty : OrderedMap κ α :=
  ⟨[], List.nodup_nil⟩

instance : EmptyCollection (OrderedMap κ α) :=
  ⟨empty⟩

instance : Inhabited (OrderedMap κ α) :=
  ⟨empty⟩

/-- The keys, first inserted first. -/
def keys (m : OrderedMap κ α) : List κ :=
  m.entries.map Prod.fst

/-- The values, in the order of their keys. -/
def values (m : OrderedMap κ α) : List α :=
  m.entries.map Prod.snd

/-- The number of entries. -/
def size (m : OrderedMap κ α) : Nat :=
  m.entries.length

instance : Membership κ (OrderedMap κ α) :=
  ⟨fun m k ↦ k ∈ m.keys⟩

theorem mem_iff {m : OrderedMap κ α} {k : κ} : k ∈ m ↔ k ∈ m.keys :=
  Iff.rfl

/-- No key stands twice in a map. -/
theorem nodup_keys (m : OrderedMap κ α) : m.keys.Nodup :=
  m.nodup

/-- Change every value by a function that also sees the key; keys and order stay. -/
def map (f : κ → α → β) (m : OrderedMap κ α) : OrderedMap κ β where
  entries := m.entries.map fun e ↦ (e.1, f e.1 e.2)
  nodup := by
    have h : (m.entries.map fun e ↦ (e.1, f e.1 e.2)).map Prod.fst = m.entries.map Prod.fst := by
      simp [Function.comp_def]
    rw [h]
    exact m.nodup

/-- Changing values leaves the keys and their order alone. -/
@[simp]
theorem keys_map (f : κ → α → β) (m : OrderedMap κ α) : (m.map f).keys = m.keys := by
  simp [keys, map, Function.comp_def]

/-- Keep the entries that pass a test. -/
def filter (p : κ → α → Bool) (m : OrderedMap κ α) : OrderedMap κ α where
  entries := m.entries.filter fun e ↦ p e.1 e.2
  nodup := (List.filter_sublist.map Prod.fst).nodup m.nodup

variable [DecidableEq κ]

instance (m : OrderedMap κ α) (k : κ) : Decidable (k ∈ m) :=
  inferInstanceAs (Decidable (k ∈ m.keys))

/-- The value of a key, if the key is present. -/
def get? (m : OrderedMap κ α) (k : κ) : Option α :=
  m.entries.lookup k

/-- Write a value into a list of entries: in place if the key is there, else at the end. -/
def insertEntry (k : κ) (a : α) : List (κ × α) → List (κ × α)
  | [] => [(k, a)]
  | e :: es => if e.1 = k then (k, a) :: es else e :: insertEntry k a es

/-- A new key comes last; a key that is there keeps its place. -/
theorem map_fst_insertEntry (k : κ) (a : α) (es : List (κ × α)) :
    (insertEntry k a es).map Prod.fst =
      if k ∈ es.map Prod.fst then es.map Prod.fst else es.map Prod.fst ++ [k] := by
  induction es with
  | nil => simp [insertEntry]
  | cons e es ih =>
    by_cases h : e.1 = k
    · subst h
      simp [insertEntry]
    · have h' : ¬k = e.1 := fun hk ↦ h hk.symm
      simp only [insertEntry, if_neg h, List.map_cons, ih, List.mem_cons, h', false_or]
      split <;> simp

/-- Write a value: in place if the key is present, else behind all entries. -/
def insert (m : OrderedMap κ α) (k : κ) (a : α) : OrderedMap κ α where
  entries := insertEntry k a m.entries
  nodup := by
    rw [map_fst_insertEntry]
    split
    · exact m.nodup
    · rename_i h
      exact List.nodup_append.2 ⟨m.nodup, by simp, by
        intro x hx y hy hxy
        simp only [List.mem_singleton] at hy
        exact h (hy ▸ hxy ▸ hx)⟩

/-- Remove a key with its value. -/
def erase (m : OrderedMap κ α) (k : κ) : OrderedMap κ α :=
  m.filter fun k' _ ↦ k' ≠ k

/-- Change the value of one key; nothing happens if the key is absent. -/
def modify (m : OrderedMap κ α) (k : κ) (f : α → α) : OrderedMap κ α :=
  m.map fun k' a ↦ if k' = k then f a else a

/-- Insert entries one after the other: a repeated key keeps its first place and takes its
last value. -/
def ofList (es : List (κ × α)) : OrderedMap κ α :=
  es.foldl (fun m e ↦ m.insert e.1 e.2) ∅

/-- Change every value by a function that may fail, in order; the first failure counts. -/
def tryMap {ε : Type} (f : κ → α → Except ε β) (m : OrderedMap κ α) :
    Except ε (OrderedMap κ β) :=
  (m.entries.mapM fun e ↦ (f e.1 e.2).map (e.1, ·)).map ofList

/-! ### What the operations do to the view -/

/-- Writing adds a key at the end, or none. -/
theorem keys_insert (m : OrderedMap κ α) (k : κ) (a : α) :
    (m.insert k a).keys = if k ∈ m then m.keys else m.keys ++ [k] :=
  map_fst_insertEntry k a m.entries

/-- Changing a value keeps the keys and their order. -/
@[simp]
theorem keys_modify (m : OrderedMap κ α) (k : κ) (f : α → α) : (m.modify k f).keys = m.keys :=
  keys_map _ m

/-- What is looked up afterwards is the new value under its key and the old ones under all
others. -/
private theorem lookup_insertEntry (k k' : κ) (a : α) (es : List (κ × α)) :
    (insertEntry k a es).lookup k' = if k' = k then some a else es.lookup k' := by
  induction es with
  | nil =>
    by_cases h : k' = k
    · simp [insertEntry, h]
    · have hb : (k' == k) = false := by simpa using h
      simp [insertEntry, List.lookup_cons, h, hb]
  | cons e es ih =>
    obtain ⟨k₀, a₀⟩ := e
    by_cases hk : k₀ = k
    · subst hk
      by_cases h : k' = k₀
      · simp [insertEntry, h]
      · have hb : (k' == k₀) = false := by simpa using h
        simp [insertEntry, List.lookup_cons, h, hb]
    · by_cases h : k' = k₀
      · subst h
        simp [insertEntry, hk]
      · have hb : (k' == k₀) = false := by simpa using h
        simp only [insertEntry, hk, if_false, List.lookup_cons, hb, ih]

/-- After writing, a key has the value that was written. -/
theorem get?_insert (m : OrderedMap κ α) (k k' : κ) (a : α) :
    (m.insert k a).get? k' = if k' = k then some a else m.get? k' :=
  lookup_insertEntry k k' a m.entries

@[simp]
theorem get?_insert_self (m : OrderedMap κ α) (k : κ) (a : α) :
    (m.insert k a).get? k = some a := by
  simp [get?_insert]

theorem get?_insert_of_ne (m : OrderedMap κ α) {k k' : κ} (a : α) (h : k' ≠ k) :
    (m.insert k a).get? k' = m.get? k' := by
  simp [get?_insert, h]

/-- As no key occurs twice, to look a key up is to find its entry. -/
private theorem lookup_eq_some_iff {es : List (κ × α)} (hn : (es.map Prod.fst).Nodup) {k : κ}
    {a : α} : es.lookup k = some a ↔ (k, a) ∈ es := by
  induction es with
  | nil => simp
  | cons e es ih =>
    obtain ⟨k₀, a₀⟩ := e
    rw [List.map_cons, List.nodup_cons] at hn
    by_cases h : k = k₀
    · subst h
      have hnot : (k, a) ∉ es := fun hm ↦ hn.1 (List.mem_map.2 ⟨_, hm, rfl⟩)
      simp [hnot, eq_comm]
    · have hb : (k == k₀) = false := by simpa using h
      simp [List.lookup_cons, hb, ih hn.2, h]

/-- An entry is listed exactly when its key has its value. -/
theorem get?_eq_some_iff {m : OrderedMap κ α} {k : κ} {a : α} :
    m.get? k = some a ↔ (k, a) ∈ m.entries :=
  lookup_eq_some_iff m.nodup

/-- A key is present exactly when it has a value. -/
theorem mem_iff_exists {m : OrderedMap κ α} {k : κ} : k ∈ m ↔ ∃ a, m.get? k = some a := by
  simp only [get?_eq_some_iff, mem_iff, keys, List.mem_map]
  constructor
  · rintro ⟨e, he, rfl⟩
    exact ⟨e.2, he⟩
  · rintro ⟨a, ha⟩
    exact ⟨_, ha, rfl⟩

/-- Exactly the keys that are not there have no value. -/
theorem get?_eq_none_iff {m : OrderedMap κ α} {k : κ} : m.get? k = none ↔ k ∉ m := by
  rw [mem_iff_exists]
  cases h : m.get? k <;> simp

/-- Inserting adds one key at most. -/
theorem mem_insert {m : OrderedMap κ α} {k k' : κ} {a : α} :
    k' ∈ m.insert k a ↔ k' = k ∨ k' ∈ m := by
  rw [mem_iff_exists, mem_iff_exists]
  by_cases h : k' = k <;> simp [get?_insert, h]

/-- A value that was changed is the one that was there, changed. -/
theorem get?_map (f : κ → α → β) (m : OrderedMap κ α) (k : κ) :
    (m.map f).get? k = (m.get? k).map (f k) := by
  obtain ⟨es, hn⟩ := m
  simp only [get?, map]
  clear hn
  induction es with
  | nil => rfl
  | cons e es ih =>
    obtain ⟨k₀, a₀⟩ := e
    by_cases h : k = k₀
    · subst h
      simp
    · have hb : (k == k₀) = false := by simpa using h
      simp [List.lookup_cons, hb, ih]

/-- Modifying a key changes the value under it and no other one. -/
theorem get?_modify (m : OrderedMap κ α) (k k' : κ) (f : α → α) :
    (m.modify k f).get? k' = if k' = k then (m.get? k').map f else m.get? k' := by
  rw [modify, get?_map]
  by_cases h : k' = k
  · subst h
    simp
  · simp [h]

/-- After erasing, a key has no value, and the others have theirs. -/
theorem get?_erase (m : OrderedMap κ α) (k k' : κ) :
    (m.erase k).get? k' = if k' = k then none else m.get? k' := by
  by_cases h : k' = k
  · subst h
    rw [if_pos rfl, get?_eq_none_iff, mem_iff, keys, erase, filter]
    intro hm
    obtain ⟨e, he, hk⟩ := List.mem_map.1 hm
    simp [hk] at he
  · rw [if_neg h]
    apply Option.ext
    intro a
    rw [get?_eq_some_iff, get?_eq_some_iff]
    simp [erase, filter, h]

end OrderedMap

end ChannelGraph
