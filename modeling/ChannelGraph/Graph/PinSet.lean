/-!
# Sets of pins

A pin of a graph is named by its node and its own name. Pins are ordered by node and then by
pin, texts by code points. A set of pins is kept as its list in increasing order, so sets with
the same members are equal (`PinSet.ext`).
-/

namespace ChannelGraph

/-- A pin of a node, by their names. -/
structure PinRef where
  /-- The name of the node. -/
  node : String
  /-- The name of the pin. -/
  pin : String
deriving DecidableEq

namespace PinRef

/-- How a pin is named in messages. -/
def text (p : PinRef) : String :=
  p.node ++ "." ++ p.pin

/-- Pins are ordered by node first and by pin second. -/
instance : LT PinRef :=
  ⟨fun p q ↦ p.node < q.node ∨ (p.node = q.node ∧ p.pin < q.pin)⟩

/-- Pins are ordered by their nodes first. -/
theorem lt_def {p q : PinRef} :
    p < q ↔ p.node < q.node ∨ (p.node = q.node ∧ p.pin < q.pin) :=
  Iff.rfl

instance (p q : PinRef) : Decidable (p < q) :=
  inferInstanceAs (Decidable (p.node < q.node ∨ (p.node = q.node ∧ p.pin < q.pin)))

theorem lt_irrefl (p : PinRef) : ¬p < p := by
  intro h
  rcases h with h | ⟨-, h⟩ <;> exact String.lt_irrefl _ h

/-- The order of pins is transitive. -/
theorem lt_trans {p q r : PinRef} (h₁ : p < q) (h₂ : q < r) : p < r := by
  rw [lt_def] at *
  rcases h₁ with h₁ | ⟨e₁, h₁⟩ <;> rcases h₂ with h₂ | ⟨e₂, h₂⟩
  · exact .inl (String.lt_trans h₁ h₂)
  · exact .inl (e₂ ▸ h₁)
  · exact .inl (e₁ ▸ h₂)
  · exact .inr ⟨e₁.trans e₂, String.lt_trans h₁ h₂⟩

/-- Of two different pins one comes first. -/
theorem lt_or_lt_of_ne {p q : PinRef} (h : p ≠ q) : p < q ∨ q < p := by
  have total (a b : String) (hab : a ≠ b) : a < b ∨ b < a := by
    by_cases h₁ : a < b
    · exact .inl h₁
    by_cases h₂ : b < a
    · exact .inr h₂
    · exact absurd (String.le_antisymm (String.not_lt.1 h₂) (String.not_lt.1 h₁)) hab
  obtain ⟨n, a⟩ := p
  obtain ⟨m, b⟩ := q
  simp only [lt_def]
  by_cases hn : n = m
  · subst hn
    have hab : a ≠ b := fun e ↦ h (by rw [e])
    rcases total a b hab with h' | h'
    · exact .inl (.inr ⟨rfl, h'⟩)
    · exact .inr (.inr ⟨rfl, h'⟩)
  · rcases total n m hn with h' | h'
    · exact .inl (.inl h')
    · exact .inr (.inl h')

end PinRef

/-- A finite set of pins, as its members in increasing order. -/
structure PinSet where
  /-- The members, in increasing order. -/
  toList : List PinRef
  /-- The order is strict. -/
  sorted : toList.Pairwise (· < ·)
deriving DecidableEq

namespace PinSet

instance : Membership PinRef PinSet :=
  ⟨fun s p ↦ p ∈ s.toList⟩

theorem mem_iff {s : PinSet} {p : PinRef} : p ∈ s ↔ p ∈ s.toList :=
  Iff.rfl

instance (s : PinSet) (p : PinRef) : Decidable (p ∈ s) :=
  inferInstanceAs (Decidable (p ∈ s.toList))

instance : EmptyCollection PinSet :=
  ⟨⟨[], List.Pairwise.nil⟩⟩

instance : Inhabited PinSet :=
  ⟨∅⟩

@[simp]
theorem not_mem_empty (p : PinRef) : p ∉ (∅ : PinSet) :=
  List.not_mem_nil

/-- The number of members. -/
def size (s : PinSet) : Nat :=
  s.toList.length

/-- Put a pin into a list in increasing order. -/
def insertSorted (p : PinRef) : List PinRef → List PinRef
  | [] => [p]
  | q :: qs =>
    if p = q then q :: qs
    else if p < q then p :: q :: qs
    else q :: insertSorted p qs

/-- Inserting adds one pin and loses none. -/
theorem mem_insertSorted {p q : PinRef} {qs : List PinRef} :
    q ∈ insertSorted p qs ↔ q = p ∨ q ∈ qs := by
  induction qs with
  | nil => simp [insertSorted]
  | cons r rs ih =>
    unfold insertSorted
    split
    · rename_i h
      subst h
      simp
    split
    · simp
    · simp only [List.mem_cons, ih]
      constructor
      · rintro (h | h | h) <;> simp [h]
      · rintro (h | h | h) <;> simp [h]

/-- A list in order stays in order with one more pin. -/
theorem pairwise_insertSorted {p : PinRef} {qs : List PinRef} (h : qs.Pairwise (· < ·)) :
    (insertSorted p qs).Pairwise (· < ·) := by
  induction qs with
  | nil => simp [insertSorted]
  | cons r rs ih =>
    have hr := List.pairwise_cons.1 h
    unfold insertSorted
    split
    · exact h
    split
    · rename_i hlt
      refine List.pairwise_cons.2 ⟨fun q hq ↦ ?_, h⟩
      rcases List.mem_cons.1 hq with rfl | hq
      · exact hlt
      · exact PinRef.lt_trans hlt (hr.1 q hq)
    · rename_i hne hnlt
      refine List.pairwise_cons.2 ⟨fun q hq ↦ ?_, ih hr.2⟩
      rcases mem_insertSorted.1 hq with rfl | hq
      · exact (PinRef.lt_or_lt_of_ne hne).resolve_left hnlt
      · exact hr.1 q hq

/-- Add a pin. -/
def insert (s : PinSet) (p : PinRef) : PinSet :=
  ⟨insertSorted p s.toList, pairwise_insertSorted s.sorted⟩

/-- Remove a pin. -/
def erase (s : PinSet) (p : PinRef) : PinSet :=
  ⟨s.toList.filter (· ≠ p), s.sorted.filter _⟩

/-- Inserting a pin adds this pin and no other one. -/
theorem mem_insert {s : PinSet} {p q : PinRef} : q ∈ s.insert p ↔ q = p ∨ q ∈ s :=
  mem_insertSorted

/-- Erasing a pin takes this pin away and no other one. -/
theorem mem_erase {s : PinSet} {p q : PinRef} : q ∈ s.erase p ↔ q ∈ s ∧ q ≠ p := by
  simp [mem_iff, erase]

/-- Sets with the same members are equal. -/
theorem ext {s t : PinSet} (h : ∀ p, p ∈ s ↔ p ∈ t) : s = t := by
  obtain ⟨as, has⟩ := s
  obtain ⟨bs, hbs⟩ := t
  suffices as = bs by
    subst this
    rfl
  simp only [mem_iff] at h
  induction as generalizing bs with
  | nil =>
    cases bs with
    | nil => rfl
    | cons b bs => exact absurd ((h b).2 List.mem_cons_self) List.not_mem_nil
  | cons a as ih =>
    have ha := List.pairwise_cons.1 has
    cases bs with
    | nil => exact absurd ((h a).1 List.mem_cons_self) List.not_mem_nil
    | cons b bs =>
      have hb := List.pairwise_cons.1 hbs
      -- both lists begin with the least pin
      have hab : a = b := by
        rcases List.mem_cons.1 ((h a).1 List.mem_cons_self) with e | hm
        · exact e
        rcases List.mem_cons.1 ((h b).2 List.mem_cons_self) with e | hm'
        · exact e.symm
        · exact absurd (PinRef.lt_trans (hb.1 a hm) (ha.1 b hm')) (PinRef.lt_irrefl b)
      subst hab
      congr 1
      refine ih ha.2 bs hb.2 fun p ↦ ⟨fun hp ↦ ?_, fun hp ↦ ?_⟩
      · rcases List.mem_cons.1 ((h p).1 (List.mem_cons_of_mem _ hp)) with e | hm
        · exact absurd (e ▸ ha.1 p hp) (PinRef.lt_irrefl a)
        · exact hm
      · rcases List.mem_cons.1 ((h p).2 (List.mem_cons_of_mem _ hp)) with e | hm
        · exact absurd (e ▸ hb.1 p hp) (PinRef.lt_irrefl a)
        · exact hm

end PinSet

end ChannelGraph
