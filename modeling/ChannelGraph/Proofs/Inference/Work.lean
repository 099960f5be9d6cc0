import ChannelGraph.Proofs.Inference.Invariant
import ChannelGraph.Proofs.Lists

/-!
# The work left to an inference

An inference ends because every visit uses up work (`Pass.work`): a channel in the queue is to be
visited, a channel without type will be put into the queue once more when it gets its type, and
a connected pin puts its channel into the queue whenever its type changes. The type of a pin
changes only if a parameter in it was bound, and for one pin that happens at most once for each
parameter. So a pin counts as much work as there are parameters without binding, and one more
if its type is behind the bindings.

At the start this is no more than `Pass.visitBound` (`work_start_le`).
-/

namespace ChannelGraph

namespace Pass

variable {g : Graph} {p : Pass} {m : Bindings} {channel : String} {pin : PinRef} {t t₀ : TypeExpr}

/-! ### Counting -/

/-- The pins that have a type, node by node. -/
def typedPins (p : Pass) : List PinRef :=
  p.pinTypes.entries.flatMap fun entry ↦ entry.2.keys.map fun pin ↦ ⟨entry.1, pin⟩

/-- The type of a pin mentions a bound parameter. -/
def isBehind (p : Pass) (pin : PinRef) : Bool :=
  (p.pinType? pin).any fun t ↦ t.params.any (· ∈ p.bindings)

/-- How many parameters of connected pins are not bound. -/
def unboundCount (g : Graph) (p : Pass) : Nat :=
  (start g).params.countP (· ∉ p.bindings)

/-- How many channels have no type. -/
def untypedCount (g : Graph) (p : Pass) : Nat :=
  g.channels.keys.countP fun channel ↦ (p.channelTypes.get? channel).join = none

/-- How many connected pins have types that mention bound parameters. -/
def behindCount (g : Graph) (p : Pass) : Nat :=
  (start g).typedPins.countP p.isBehind

/-- No more visits than this are left. -/
def work (g : Graph) (p : Pass) : Nat :=
  p.queue.length + p.untypedCount g + (start g).typedPins.length * p.unboundCount g +
    p.behindCount g

/-- Their number is that of the types in the state. -/
theorem length_typedPins (p : Pass) : p.typedPins.length = p.pinCount := by
  rw [typedPins, pinCount, OrderedMap.values, List.flatMap_map, List.length_flatMap,
    List.length_flatMap]
  simp only [List.length_map]

/-- A pin with a type is among them. -/
theorem mem_typedPins (h : p.pinType? pin = some t) : pin ∈ p.typedPins := by
  obtain ⟨types, htypes, ht⟩ := Option.bind_eq_some_iff.1 h
  refine List.mem_flatMap.2 ⟨_, OrderedMap.get?_eq_some_iff.1 htypes, ?_⟩
  exact List.mem_map.2 ⟨pin.pin, OrderedMap.mem_iff.1 (OrderedMap.mem_iff_exists.2 ⟨t, ht⟩), rfl⟩

/-- A pin is behind if its type mentions a parameter that has been bound since. -/
theorem isBehind_iff (h : p.pinType? pin = some t) :
    p.isBehind pin ↔ ∃ q ∈ t.params, q ∈ p.bindings := by
  rw [isBehind, h, Option.any_some, List.any_eq_true]
  simp only [decide_eq_true_eq]

/-- The work at the start is within the bound on the visits. -/
theorem work_start_le (g : Graph) : (start g).work g ≤ (start g).visitBound := by
  have huntyped : (start g).untypedCount g ≤ g.channels.keys.length := List.countP_le_length
  have hunbound : (start g).unboundCount g ≤ (start g).params.length := List.countP_le_length
  have hbehind : (start g).behindCount g = 0 := by
    refine List.countP_eq_zero.2 fun pin _ hbehind ↦ ?_
    obtain ⟨t, -, ht⟩ := (Option.any_eq_true _ _).1 hbehind
    obtain ⟨q, -, hq⟩ := List.any_eq_true.1 ht
    exact List.not_mem_nil (of_decide_eq_true hq)
  have hsize : (start g).channelTypes.size = g.channels.keys.length := by
    show (g.channels.entries.map _).length = (g.channels.entries.map _).length
    rw [List.length_map, List.length_map]
  have hqueue : (start g).queue.length = g.channels.keys.length := rfl
  have hmul := Nat.mul_le_mul_left (start g).typedPins.length hunbound
  rw [length_typedPins] at hmul
  rw [work, visitBound, hqueue, hbehind, hsize, length_typedPins]
  omega

/-! ### What the changes of a state do to the work -/

/-- A visit takes one channel off the queue. -/
theorem work_pop {queue : List String} (h : p.queue = channel :: queue) :
    work g { p with queue := queue } + 1 = p.work g := by
  have hlen : p.queue.length = queue.length + 1 := by rw [h, List.length_cons]
  show queue.length + p.untypedCount g + _ * p.unboundCount g + p.behindCount g + 1 = _
  rw [work, hlen]
  omega

/-- One more channel in the queue is one more piece of work at most. -/
theorem work_push_le (g : Graph) (p : Pass) (channel : String) :
    (p.push channel).work g ≤ p.work g + 1 := by
  unfold push
  split
  · exact Nat.le_succ _
  · have hlen : (p.queue ++ [channel]).length = p.queue.length + 1 := List.length_append
    show (p.queue ++ [channel]).length + p.untypedCount g + _ * p.unboundCount g +
      p.behindCount g ≤ _
    rw [work, hlen]
    omega

/-- Bringing the type of a pin up to the bindings is work. -/
theorem work_setPinType (h : Sound g p) (hpin : p.pinType? pin = some t₀)
    (hbehind : p.isBehind pin) (ht : ∀ q ∈ t.params, q ∉ p.bindings) :
    (p.setPinType pin t).work g + 1 ≤ p.work g := by
  have hget := pinType?_setPinType hpin t
  have hfresh : ¬(p.setPinType pin t).isBehind pin := by
    have hnew : (p.setPinType pin t).pinType? pin = some t := by rw [hget, if_pos rfl]
    rw [isBehind_iff hnew]
    rintro ⟨q, hq, hmem⟩
    exact ht q hq hmem
  have hcount : (p.setPinType pin t).behindCount g < p.behindCount g := by
    obtain ⟨e, he⟩ := h.exists_start hpin
    refine countP_lt_countP (fun pin' _ hpin' ↦ ?_) ⟨pin, mem_typedPins he, hbehind, hfresh⟩
    by_cases heq : pin' = pin
    · rw [heq] at hpin'
      exact absurd hpin' hfresh
    · rw [isBehind, hget, if_neg heq] at hpin'
      exact hpin'
  show p.queue.length + p.untypedCount g + _ * p.unboundCount g + _ + 1 ≤ _
  rw [work]
  omega

/-- Setting the type of a channel changes that of no other one. -/
private theorem join_setChannelType (p : Pass) (channel : String) (t : TypeExpr)
    (channel' : String) :
    ((p.setChannelType channel t).channelTypes.get? channel').join =
      if channel' = channel then some t else (p.channelTypes.get? channel').join := by
  show ((p.channelTypes.insert channel (some t)).get? channel').join = _
  rw [OrderedMap.get?_insert]
  split <;> rfl

/-- Writing the type of a channel makes no work. -/
theorem work_setChannelType_le (g : Graph) (p : Pass) (channel : String) (t : TypeExpr) :
    (p.setChannelType channel t).work g ≤ p.work g := by
  have hcount : (p.setChannelType channel t).untypedCount g ≤ p.untypedCount g := by
    refine List.countP_mono_left fun channel' _ hnone ↦ ?_
    rw [decide_eq_true_eq, join_setChannelType] at hnone
    split at hnone
    · cases hnone
    · exact decide_eq_true hnone
  show p.queue.length + _ + _ * p.unboundCount g + p.behindCount g ≤ _
  rw [work]
  omega

/-- Giving a channel its first type is work. -/
theorem work_setChannelType (hchannel : channel ∈ g.channels)
    (hnone : (p.channelTypes.get? channel).join = none) (t : TypeExpr) :
    (p.setChannelType channel t).work g + 1 ≤ p.work g := by
  have hcount : (p.setChannelType channel t).untypedCount g < p.untypedCount g := by
    refine countP_lt_countP (fun channel' _ h ↦ ?_) ⟨channel, hchannel, decide_eq_true hnone, ?_⟩
    · rw [decide_eq_true_eq, join_setChannelType] at h
      split at h
      · cases h
      · exact decide_eq_true h
    · rw [decide_eq_true_eq, join_setChannelType, if_pos rfl]
      exact Option.some_ne_none t
  show p.queue.length + _ + _ * p.unboundCount g + p.behindCount g + 1 ≤ _
  rw [work]
  omega

/-- More bindings make no work: they may leave every pin behind, but then one more parameter is
bound. -/
theorem work_bindings_le (h : Sound g p) (hm : m.Extends p.bindings) :
    work g { p with bindings := m } ≤ p.work g := by
  have hmem : ∀ q, q ∈ p.bindings → q ∈ m := by
    intro q hq
    obtain ⟨e, he⟩ := OrderedMap.mem_iff_exists.1 hq
    exact OrderedMap.mem_iff_exists.2 ⟨e, hm q e he⟩
  have hunbound : ∀ q ∈ (start g).params, decide (q ∉ m) → decide (q ∉ p.bindings) := by
    intro q _ hq
    exact decide_eq_true fun hold ↦ of_decide_eq_true hq (hmem q hold)
  have hgoal : (start g).typedPins.length * unboundCount g { p with bindings := m } +
      behindCount g { p with bindings := m } ≤
        (start g).typedPins.length * p.unboundCount g + p.behindCount g := by
    by_cases hnew : ∃ q ∈ (start g).params, q ∈ m ∧ q ∉ p.bindings
    · -- the parameter that was bound pays for all pins at once
      obtain ⟨q, hq, hqm, hold⟩ := hnew
      have hlt : unboundCount g { p with bindings := m } < p.unboundCount g :=
        countP_lt_countP hunbound ⟨q, hq, decide_eq_true hold, fun h ↦ of_decide_eq_true h hqm⟩
      have hle : behindCount g { p with bindings := m } ≤ (start g).typedPins.length :=
        List.countP_le_length
      have hmul := Nat.mul_le_mul_left (start g).typedPins.length hlt
      rw [Nat.mul_succ] at hmul
      omega
    · -- types of pins mention no other parameters, so no pin falls behind
      have hle : unboundCount g { p with bindings := m } ≤ p.unboundCount g :=
        List.countP_mono_left hunbound
      have hbehind : behindCount g { p with bindings := m } ≤ p.behindCount g := by
        refine List.countP_mono_left fun pin _ hpin ↦ ?_
        obtain ⟨t, ht, hany⟩ := (Option.any_eq_true _ _).1 hpin
        obtain ⟨q, hq, hqm⟩ := List.any_eq_true.1 hany
        have hpinType : p.pinType? pin = some t := ht
        have hparam := (h.known hpinType).params q hq
        refine (isBehind_iff hpinType).2 ⟨q, hq, ?_⟩
        by_contra hold
        exact hnew ⟨q, hparam, of_decide_eq_true hqm, hold⟩
      have hmul := Nat.mul_le_mul_left (start g).typedPins.length hle
      omega
  show p.queue.length + p.untypedCount g + _ + _ ≤ _
  rw [work]
  omega

end Pass

end ChannelGraph
