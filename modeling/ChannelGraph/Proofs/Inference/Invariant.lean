import ChannelGraph.Proofs.Inference.Constraints

/-!
# What every state of an inference keeps

The state of an inference is changed in four ways only: a channel is put into the queue, the type of
a pin or of a channel is written, and bindings are added by a unification. `Pass.Sound` says what
all of them keep, whether or not the caches are current:

* the types of pins and channels are *known*: they have texts and mention parameters of connected
  pins only, and so do the bindings;
* the bindings entail that the type of a pin is the one it started with, and that the type of a
  channel is the one that some cached pin of the channel started with;
* whatever makes the types agree that the caches relate satisfies the bindings, so nothing is bound
  that is not forced.

The order in which channels are visited is no part of this.
-/

namespace ChannelGraph

namespace Pass

variable {g : Graph} {p : Pass} {channel channel' : String} {pin pin' : PinRef} {e t t₀ : TypeExpr}

/-! ### Known types -/

/-- A type with a text that mentions parameters of connected pins only. -/
structure Known (g : Graph) (e : TypeExpr) : Prop where
  /-- The type has a text. -/
  isWritable : e.IsWritable
  /-- All its parameters are those of connected pins. -/
  params : ∀ q ∈ e.params, q ∈ (start g).params

/-- The arguments of a known type are known. -/
theorem Known.hereditary (g : Graph) : TypeExpr.Hereditary (Known g) := by
  intro h args hknown a ha
  refine ⟨hknown.isWritable.of_mem ha, fun q hq ↦ ?_⟩
  exact hknown.params q (TypeExpr.mem_params_compound.2 ⟨a, ha, hq⟩)

/-- The parameters in the type of a pin are among those of the state. -/
theorem mem_params (h : p.pinType? pin = some t) {q : TypeParam} (hq : q ∈ t.params) :
    q ∈ p.params := by
  obtain ⟨types, htypes, ht⟩ := Option.bind_eq_some_iff.1 h
  refine List.mem_eraseDups.2 (List.mem_flatMap.2 ⟨types, ?_, ?_⟩)
  · exact OrderedMap.mem_values_of_get? htypes
  · exact List.mem_flatMap.2 ⟨t, OrderedMap.mem_values_of_get? ht, hq⟩

/-- The types that pins start with are known. -/
theorem known_start (h : (start g).pinType? pin = some e) : Known g e := by
  obtain ⟨channel, -, hwired⟩ := pinType?_start_iff.1 h
  exact ⟨hwired.isWritable, fun q hq ↦ mem_params h hq⟩

/-! ### The invariant -/

/-- What holds in every state of an inference. -/
structure Sound (g : Graph) (p : Pass) : Prop where
  /-- The bindings do not lead back to themselves. -/
  acyclic : p.bindings.Acyclic
  /-- Only parameters of connected pins are bound, and to known types. -/
  bound : ∀ q e, p.bindings.get? q = some e → q ∈ (start g).params ∧ Known g e
  /-- Nothing is bound that is not forced by the caches. -/
  forced : ∀ σ, g.CachedSolution σ → p.bindings.SatisfiedBy σ
  /-- The same pins have types as at the start. -/
  pinKeys : ∀ node,
    (p.pinTypes.get? node).map OrderedMap.keys = ((start g).pinTypes.get? node).map OrderedMap.keys
  /-- The type of a pin is known, and the one that the pin started with. -/
  pinType : ∀ pin e, (start g).pinType? pin = some e →
    ∃ t, p.pinType? pin = some t ∧ Known g t ∧ p.bindings.Entails t e
  /-- The channels are those of the graph. -/
  channelKeys : p.channelTypes.keys = g.channels.keys
  /-- The type of a channel is known, and the one that a cached pin of it started with. -/
  channelType : ∀ channel t, p.channelTypes.get? channel = some (some t) →
    Known g t ∧ ∃ pin ∈ g.cachedPins channel, ∃ e,
      (start g).pinType? pin = some e ∧ p.bindings.Entails t e
  /-- Only channels of the graph are to be visited. -/
  queue : ∀ channel ∈ p.queue, channel ∈ g.channels

/-- The invariant holds before the first visit. -/
theorem sound_start (g : Graph) : Sound g (start g) where
  acyclic := Bindings.acyclic_empty
  bound := fun _ _ h ↦ nomatch h
  forced := fun σ _ ↦ Bindings.satisfiedBy_empty σ
  pinKeys := fun _ ↦ rfl
  pinType := fun pin e h ↦ ⟨e, h, known_start h, Bindings.Entails.refl _ _⟩
  channelKeys := OrderedMap.keys_map _ _
  channelType := by
    intro channel t h
    have hget : (start g).channelTypes.get? channel = (g.channels.get? channel).map fun _ ↦ none :=
      OrderedMap.get?_map _ _ _
    rw [hget] at h
    cases hc : g.channels.get? channel with
    | none => rw [hc] at h; cases h
    | some c => rw [hc] at h; cases h
  queue := fun _ h ↦ h

namespace Sound

/-- Everything that is bound has a text. -/
theorem writable (h : Sound g p) : p.bindings.Writable :=
  fun q e hq ↦ (h.bound q e hq).2.isWritable

/-- Everything that is bound is known. -/
theorem closedUnder (h : Sound g p) : p.bindings.ClosedUnder (Known g) :=
  fun q e hq _ ↦ (h.bound q e hq).2

/-- A pin that has a type had one at the start. -/
theorem exists_start (h : Sound g p) (ht : p.pinType? pin = some t) :
    ∃ e, (start g).pinType? pin = some e := by
  obtain ⟨types, htypes, hpin⟩ := Option.bind_eq_some_iff.1 ht
  have hkeys := h.pinKeys pin.node
  rw [htypes, Option.map_some] at hkeys
  obtain ⟨types₀, htypes₀, hkeys⟩ := Option.map_eq_some_iff.1 hkeys.symm
  have hmem : pin.pin ∈ types₀ := by
    rw [OrderedMap.mem_iff, hkeys]
    exact OrderedMap.mem_iff.1 (OrderedMap.mem_iff_exists.2 ⟨t, hpin⟩)
  obtain ⟨e, he⟩ := OrderedMap.mem_iff_exists.1 hmem
  exact ⟨e, Option.bind_eq_some_iff.2 ⟨types₀, htypes₀, he⟩⟩

/-- The type of a pin is known at any time. -/
theorem known (h : Sound g p) (ht : p.pinType? pin = some t) : Known g t := by
  obtain ⟨e, he⟩ := h.exists_start ht
  obtain ⟨t', ht', hknown, -⟩ := h.pinType pin e he
  rw [ht] at ht'
  rwa [Option.some.inj ht']

/-- The type of a pin stays the one that the pin started with, as far as the bindings say. -/
theorem entails_start (h : Sound g p) (ht : p.pinType? pin = some t)
    (he : (start g).pinType? pin = some e) : p.bindings.Entails t e := by
  obtain ⟨t', ht', -, hentails⟩ := h.pinType pin e he
  rw [ht] at ht'
  rwa [Option.some.inj ht']

/-- A pin without type had none at the start. -/
theorem start_eq_none (h : Sound g p) (hnone : p.pinType? pin = none) :
    (start g).pinType? pin = none := by
  rw [Option.eq_none_iff_forall_ne_some]
  intro e he
  obtain ⟨t, ht, -⟩ := h.pinType pin e he
  rw [hnone] at ht
  cases ht

/-- Instances of known types are known. -/
theorem known_substitute (h : Sound g p) (ht : Known g t) :
    Known g (t.substitute p.bindings.value) := by
  refine ⟨ht.isWritable.substitute fun q _ ↦ h.writable.value h.acyclic q, fun q hq ↦ ?_⟩
  obtain ⟨s, hs, hqs⟩ := TypeExpr.mem_params_substitute.1 hq
  replace hs := ht.params s hs
  clear hq
  -- down the bindings, all of which stay among the parameters of connected pins
  induction s using h.acyclic.induction with
  | h s ih =>
    cases hbound : p.bindings.get? s with
    | none =>
      rw [Bindings.value_of_unbound hbound] at hqs
      rwa [List.mem_singleton.1 hqs]
    | some e =>
      rw [Bindings.value_of_bound h.acyclic hbound] at hqs
      obtain ⟨s', hs', hqs'⟩ := TypeExpr.mem_params_substitute.1 hqs
      exact ih s' ⟨e, hbound, hs'⟩ hqs' ((h.bound s e hbound).2.params s' hs')

/-! ### The four changes -/

/-- The invariant does not depend on the order in which channels of the graph are to be visited. -/
theorem push (h : Sound g p) (hchannel : channel ∈ g.channels) : Sound g (p.push channel) := by
  unfold Pass.push
  split
  · exact h
  · refine { h with queue := fun c hc ↦ ?_ }
    rcases List.mem_append.1 hc with hc | hc
    · exact h.queue c hc
    · rwa [List.mem_singleton.1 hc]

end Sound

/-- Writing the type of a pin that has one changes the type of this pin. -/
theorem pinType?_setPinType (hpin : p.pinType? pin = some t₀) (t : TypeExpr) (pin' : PinRef) :
    (p.setPinType pin t).pinType? pin' = if pin' = pin then some t else p.pinType? pin' := by
  obtain ⟨types, htypes, ht₀⟩ := Option.bind_eq_some_iff.1 hpin
  show (((p.pinTypes.modify pin.node _).get? pin'.node).bind _) = _
  rw [OrderedMap.get?_modify]
  split
  · rename_i hnode
    rw [pinType?, hnode, htypes, Option.map_some, Option.bind_some, Option.bind_some,
      OrderedMap.get?_insert]
    have hiff : pin' = pin ↔ pin'.pin = pin.pin := by
      cases pin; cases pin'; cases hnode; simp
    simp only [hiff]
  · rename_i hnode
    have hne : pin' ≠ pin := fun heq ↦ hnode (by rw [heq])
    rw [if_neg hne, pinType?]

/-- Setting the type of a pin gives no other pin a type. -/
theorem keys_setPinType (hpin : p.pinType? pin = some t₀) (t : TypeExpr) (node : String) :
    ((p.setPinType pin t).pinTypes.get? node).map OrderedMap.keys =
      (p.pinTypes.get? node).map OrderedMap.keys := by
  obtain ⟨types, htypes, ht₀⟩ := Option.bind_eq_some_iff.1 hpin
  show ((p.pinTypes.modify pin.node _).get? node).map _ = _
  rw [OrderedMap.get?_modify]
  split
  · rename_i hnode
    have hmem : pin.pin ∈ types := OrderedMap.mem_iff_exists.2 ⟨t₀, ht₀⟩
    rw [hnode, htypes, Option.map_some, Option.map_some, Option.map_some, OrderedMap.keys_insert,
      if_pos hmem]
  · rfl

namespace Sound

/-- A pin may be given another known type that the bindings say is the same. -/
theorem setPinType (h : Sound g p) (hpin : p.pinType? pin = some t₀) (ht : Known g t)
    (htype : p.bindings.Entails t t₀) : Sound g (p.setPinType pin t) := by
  refine { h with pinKeys := fun node ↦ ?_, pinType := fun pin' e he ↦ ?_ }
  · rw [keys_setPinType hpin]
    exact h.pinKeys node
  · obtain ⟨t', ht', hknown, hentails⟩ := h.pinType pin' e he
    rw [pinType?_setPinType hpin]
    split
    · rename_i heq
      rw [heq, hpin] at ht'
      refine ⟨t, rfl, ht, htype.trans ?_⟩
      rwa [Option.some.inj ht']
    · exact ⟨t', ht', hknown, hentails⟩

/-- A channel may be given a known type that the bindings say is that of one of its pins. -/
theorem setChannelType (h : Sound g p) (ht : Known g t) (hpin : pin ∈ g.cachedPins channel)
    (he : (start g).pinType? pin = some e) (htype : p.bindings.Entails t e) :
    Sound g (p.setChannelType channel t) := by
  have hmem : channel ∈ p.channelTypes := by
    rw [OrderedMap.mem_iff, h.channelKeys]
    exact Graph.mem_channels_of_mem_cachedPins hpin
  refine { h with channelKeys := ?_, channelType := fun channel' t' ht' ↦ ?_ }
  · show (p.channelTypes.insert channel (some t)).keys = _
    rw [OrderedMap.keys_insert, if_pos hmem, h.channelKeys]
  · have hget : (p.channelTypes.insert channel (some t)).get? channel' = some (some t') := ht'
    rw [OrderedMap.get?_insert] at hget
    split at hget
    · rename_i heq
      cases hget
      rw [heq]
      exact ⟨ht, pin, hpin, e, he, htype⟩
    · exact h.channelType channel' t' hget

/-- A unification of known types that have to agree adds known bindings that are forced. -/
theorem unify {l r : TypeExpr} {m : Bindings} (h : Sound g p) (hl : Known g l) (hr : Known g r)
    (hagree : ∀ σ, g.CachedSolution σ → l.substitute σ = r.substitute σ)
    (hrun : p.bindings.unify l r = .ok m) : Sound g { p with bindings := m } := by
  have hsolves := Bindings.solves_unify h.acyclic l r
  rw [hrun] at hsolves
  have hextends : m.Extends p.bindings := hsolves.extends
  have hsides : ∀ eq ∈ [(l, r)], Known g eq.1 ∧ Known g eq.2 :=
    List.forall_mem_singleton.2 ⟨hl, hr⟩
  obtain ⟨hclosed, hnew⟩ := hsolves.closedUnder (Known.hereditary g) h.closedUnder hsides
  refine { h with
    acyclic := hsolves.acyclic h.acyclic
    bound := fun q e hq ↦ ?_
    forced := fun σ hσ ↦ ?_
    pinType := fun pin e he ↦ ?_
    channelType := fun channel t ht ↦ ?_ }
  · -- a new binding is to a parameter of the types that were unified
    have hparam : q ∈ (start g).params := by
      cases hold : p.bindings.get? q with
      | some e' => exact (h.bound q e' hold).1
      | none =>
        have hknown := hnew q hold (OrderedMap.mem_iff_exists.2 ⟨e, hq⟩)
        exact hknown.params q (List.mem_singleton.2 rfl)
    refine ⟨hparam, hclosed q e hq ⟨.param q, fun s hs ↦ ?_⟩⟩
    rwa [List.mem_singleton.1 hs]
  · exact hsolves.satisfiedBy (h.forced σ hσ) (Bindings.unifies_singleton.2 (hagree σ hσ))
  · obtain ⟨t, ht, hknown, hentails⟩ := h.pinType pin e he
    exact ⟨t, ht, hknown, hentails.mono hextends⟩
  · obtain ⟨hknown, pin, hpin, e, he, hentails⟩ := h.channelType channel t ht
    exact ⟨hknown, pin, hpin, e, he, hentails.mono hextends⟩

end Sound

end Pass

end ChannelGraph
