import ChannelGraph.Graph.Inference
import ChannelGraph.Proofs.Bindings.MostGeneral
import ChannelGraph.Proofs.OrderedMap
import ChannelGraph.Proofs.TypeExpr.Reading

/-!
# What the wiring of a graph asks of its types

A graph asks that the declared types of all pins that are connected to one channel become equal,
where the parameters of a node are its own (`Graph.Solution`). Nothing else enters: neither the
order of nodes and channels nor the caches nor types that were inferred before
(`solution_clearTypes_iff`).

Inference reads the declared types from the state in which it starts (`pinType?_start_iff`) and the
constraints from the caches of the channels (`Graph.CachedSolution`). If the caches are current
(`Graph.CachesCurrent`), these are the constraints of the wiring
(`CachesCurrent.cachedSolution_iff`).
-/

namespace ChannelGraph

namespace Graph

variable {g : Graph} {channel channel' : String} {pin : PinRef} {e e' : TypeExpr}

/-- A pin that its node declares is connected to a channel by name; its declared type is meant in
the scope of the node. -/
def Wired (g : Graph) (channel : String) (pin : PinRef) (e : TypeExpr) : Prop :=
  ∃ n declared, g.nodes.get? pin.node = some n ∧ n.pins.get? pin.pin = some declared ∧
    n.connectedChannel pin.pin = some channel ∧ declared.type.inScope pin.node = e

/-- The cache of every channel holds exactly the declared pins that are connected to it. -/
def CachesCurrent (g : Graph) : Prop :=
  ∀ channel c, g.channels.get? channel = some c → ∀ pin, pin ∈ c.pins ↔ ∃ e, g.Wired channel pin e

/-- Types for the parameters under which all pins of one channel have the same type, for every
channel of the graph. -/
def Solution (g : Graph) (σ : TypeParam → TypeExpr) : Prop :=
  ∀ channel ∈ g.channels, ∀ pin e pin' e', g.Wired channel pin e → g.Wired channel pin' e' →
    e.substitute σ = e'.substitute σ

/-- Whether a pin of a known node is wired is seen in this node. -/
theorem wired_iff_of_get? {n : Node} {name x : String} (hn : g.nodes.get? name = some n) :
    g.Wired channel ⟨name, x⟩ e ↔ ∃ declared, n.pins.get? x = some declared ∧
      n.connectedChannel x = some channel ∧ declared.type.inScope name = e := by
  constructor
  · rintro ⟨n', declared, hn', hwired⟩
    obtain rfl := Option.some.inj (hn.symm.trans hn')
    exact ⟨declared, hwired⟩
  · rintro ⟨declared, hwired⟩
    exact ⟨n, declared, hn, hwired⟩

/-- A pin is connected to one channel and has one declared type. -/
theorem Wired.unique (h : g.Wired channel pin e) (h' : g.Wired channel' pin e') :
    channel = channel' ∧ e = e' := by
  obtain ⟨n, declared, hn, hpin, hchannel, rfl⟩ := h
  obtain ⟨declared', hpin', hchannel', rfl⟩ := (wired_iff_of_get? hn).1 h'
  obtain rfl := Option.some.inj (hpin.symm.trans hpin')
  exact ⟨Option.some.inj (hchannel.symm.trans hchannel'), rfl⟩

/-- Declared types have texts. -/
theorem Wired.isWritable (h : g.Wired channel pin e) : e.IsWritable := by
  obtain ⟨n, declared, -, -, -, rfl⟩ := h
  exact declared.type.isWritable_inScope pin.node

/-- Current caches list exactly the wired pins. -/
theorem mem_cachedPins_iff (hcurrent : g.CachesCurrent) (hchannel : channel ∈ g.channels) :
    pin ∈ g.cachedPins channel ↔ ∃ e, g.Wired channel pin e := by
  obtain ⟨c, hc⟩ := OrderedMap.mem_iff_exists.1 hchannel
  rw [cachedPins, hc]
  exact hcurrent channel c hc pin

/-! ### Current caches can be recognized -/

/-- Different pins of every node are different pins, since the names of the nodes are different. -/
theorem nodup_pinRefs {α : Type} (nodes : OrderedMap String α) {pins : String × α → List String}
    (h : ∀ entry ∈ nodes.entries, (pins entry).Nodup) :
    (nodes.entries.flatMap fun entry ↦ (pins entry).map (PinRef.mk entry.1)).Nodup := by
  rw [List.nodup_flatMap]
  refine ⟨fun entry hentry ↦ (h entry hentry).map fun x y heq ↦ (PinRef.mk.inj heq).2, ?_⟩
  have hnames : nodes.entries.Pairwise fun e e' ↦ e.1 ≠ e'.1 :=
    List.pairwise_map.1 nodes.nodup_keys
  refine hnames.imp fun {e e'} hne ↦ List.disjoint_left.2 fun pin hpin hpin' ↦ hne ?_
  obtain ⟨x, -, rfl⟩ := List.mem_map.1 hpin
  obtain ⟨x', -, heq⟩ := List.mem_map.1 hpin'
  exact (PinRef.mk.inj heq).1.symm

/-- The declared pins that are connected to a channel, node by node. -/
def wiredTo (g : Graph) (channel : String) : List PinRef :=
  g.nodes.entries.flatMap fun entry ↦
    (entry.2.pins.keys.filter fun pin ↦ entry.2.connectedChannel pin = some channel).map
      (PinRef.mk entry.1)

/-- The wired pins of a channel can be listed from the nodes. -/
theorem mem_wiredTo_iff : pin ∈ g.wiredTo channel ↔ ∃ e, g.Wired channel pin e := by
  unfold wiredTo
  rw [List.mem_flatMap]
  constructor
  · rintro ⟨⟨name, n⟩, hn, hpin⟩
    obtain ⟨x, hx, rfl⟩ := List.mem_map.1 hpin
    obtain ⟨hmem, hchannel⟩ := List.mem_filter.1 hx
    obtain ⟨declared, hdeclared⟩ := OrderedMap.mem_iff_exists.1 (OrderedMap.mem_iff.2 hmem)
    exact ⟨_, n, declared, OrderedMap.get?_eq_some_iff.2 hn, hdeclared,
      of_decide_eq_true hchannel, rfl⟩
  · rintro ⟨e, n, declared, hn, hdeclared, hchannel, -⟩
    refine ⟨_, OrderedMap.get?_eq_some_iff.1 hn, List.mem_map.2 ⟨pin.pin, ?_, rfl⟩⟩
    refine List.mem_filter.2 ⟨?_, decide_eq_true hchannel⟩
    exact OrderedMap.mem_iff.1 (OrderedMap.mem_iff_exists.2 ⟨declared, hdeclared⟩)

/-- Caches are current if they agree with these lists, which can be decided. -/
theorem cachesCurrent_iff : g.CachesCurrent ↔
    ∀ entry ∈ g.channels.entries, (∀ pin ∈ entry.2.pins.toList, pin ∈ g.wiredTo entry.1) ∧
      ∀ pin ∈ g.wiredTo entry.1, pin ∈ entry.2.pins := by
  constructor
  · rintro h ⟨channel, c⟩ hentry
    have hc := OrderedMap.get?_eq_some_iff.2 hentry
    exact ⟨fun pin hpin ↦ mem_wiredTo_iff.2 ((h channel c hc pin).1 hpin),
      fun pin hpin ↦ (h channel c hc pin).2 (mem_wiredTo_iff.1 hpin)⟩
  · intro h channel c hc pin
    obtain ⟨hcached, hwired⟩ := h _ (OrderedMap.get?_eq_some_iff.1 hc)
    exact ⟨fun hpin ↦ mem_wiredTo_iff.1 (hcached pin hpin),
      fun hpin ↦ hwired pin (mem_wiredTo_iff.2 hpin)⟩

instance (g : Graph) : Decidable g.CachesCurrent :=
  decidable_of_iff _ cachesCurrent_iff.symm

/-- Two unslicers in a row behind a transformation, with current caches. The output of the
transformation has to be a slice of slices. -/
def unslicedTwice : Graph where
  nodes := .ofList [
    ("first", {
      part := .unslicer
      connections := .ofList [("input", .string "outer"), ("output", .string "inner")] }),
    ("second", {
      part := .unslicer
      connections := .ofList [("input", .string "inner"), ("output", noConnection)] }),
    ("source", {
      part := .transform [] ""
      connections := .ofList [("input", noConnection), ("output", .string "outer")] })]
  channels := .ofList [
    ("inner", { pins := [⟨"first", "output"⟩, ⟨"second", "input"⟩].foldl PinSet.insert ∅ }),
    ("outer", { pins := [⟨"first", "input"⟩, ⟨"source", "output"⟩].foldl PinSet.insert ∅ })]

theorem cachesCurrent_unslicedTwice : unslicedTwice.CachesCurrent := by
  decide +kernel

/-! ### Forgetting inferred types -/

/-- Clearing types keeps the channels and their order. -/
theorem keys_channels_clearTypes (g : Graph) : g.clearTypes.channels.keys = g.channels.keys :=
  OrderedMap.keys_map _ _

/-- Clearing types keeps the nodes and their order. -/
theorem keys_nodes_clearTypes (g : Graph) : g.clearTypes.nodes.keys = g.nodes.keys :=
  OrderedMap.keys_map _ _

theorem mem_channels_clearTypes : channel ∈ g.clearTypes.channels ↔ channel ∈ g.channels := by
  rw [OrderedMap.mem_iff, OrderedMap.mem_iff, keys_channels_clearTypes]

/-- Every node loses its own types. -/
theorem get?_nodes_clearTypes (g : Graph) (name : String) :
    g.clearTypes.nodes.get? name = (g.nodes.get? name).map Node.clearTypes :=
  OrderedMap.get?_map _ _ _

/-- Every channel loses its own type. -/
theorem get?_channels_clearTypes (g : Graph) (name : String) :
    g.clearTypes.channels.get? name =
      (g.channels.get? name).map fun c ↦ { c with type := none } :=
  OrderedMap.get?_map _ _ _

/-- Inferred types are no part of the wiring. -/
theorem wired_clearTypes_iff : g.clearTypes.Wired channel pin e ↔ g.Wired channel pin e := by
  unfold Wired
  rw [get?_nodes_clearTypes]
  constructor
  · rintro ⟨n', declared, hn', hpin, hchannel, he⟩
    obtain ⟨n, hn, rfl⟩ := Option.map_eq_some_iff.1 hn'
    exact ⟨n, declared, hn, hpin, hchannel, he⟩
  · rintro ⟨n, declared, hn, hpin, hchannel, he⟩
    exact ⟨n.clearTypes, declared, by rw [hn]; rfl, hpin, hchannel, he⟩

/-- Caches do not depend on types. -/
theorem CachesCurrent.clearTypes (h : g.CachesCurrent) : g.clearTypes.CachesCurrent := by
  intro channel c' hc' pin
  rw [get?_channels_clearTypes] at hc'
  obtain ⟨c, hc, rfl⟩ := Option.map_eq_some_iff.1 hc'
  simp only [wired_clearTypes_iff]
  exact h channel c hc pin

/-- Inferred types are no part of the constraints. -/
theorem solution_clearTypes_iff {σ : TypeParam → TypeExpr} :
    g.clearTypes.Solution σ ↔ g.Solution σ := by
  simp only [Solution, wired_clearTypes_iff, mem_channels_clearTypes]

end Graph

namespace Pass

variable {g : Graph} {pin : PinRef} {e : TypeExpr}

/-- The pins of a node that are connected to a channel of the graph, with their declared
types. -/
theorem get?_declaredTypes (channels : OrderedMap String Channel) (name : String) (n : Node)
    (pin : String) :
    (declaredTypes channels name n).get? pin =
      ((n.pins.get? pin).filter fun _ ↦ (n.connectedChannel pin).any (· ∈ channels)).map
        fun declared ↦ declared.type.inScope name := by
  rw [declaredTypes, OrderedMap.get?_map, OrderedMap.get?_filter]

/-- An inference starts from the declared types of the pins that are connected to a channel of the
graph. -/
theorem pinType?_start_iff :
    (start g).pinType? pin = some e ↔ ∃ channel ∈ g.channels, g.Wired channel pin e := by
  have hstart : (start g).pinType? pin =
      (g.nodes.get? pin.node).bind fun n ↦ (declaredTypes g.channels pin.node n).get? pin.pin := by
    show (((g.nodes.map (declaredTypes g.channels)).get? pin.node).bind _) = _
    rw [OrderedMap.get?_map, Option.bind_map]
    rfl
  rw [hstart, Option.bind_eq_some_iff]
  constructor
  · rintro ⟨n, hn, he⟩
    rw [get?_declaredTypes, Option.map_eq_some_iff] at he
    obtain ⟨declared, hdeclared, he⟩ := he
    obtain ⟨hdeclared, hconnected⟩ := Option.filter_eq_some_iff.1 hdeclared
    obtain ⟨channel, hchannel, hmem⟩ := (Option.any_eq_true _ _).1 hconnected
    exact ⟨channel, of_decide_eq_true hmem, n, declared, hn, hdeclared, hchannel, he⟩
  · rintro ⟨channel, hmem, n, declared, hn, hdeclared, hchannel, he⟩
    refine ⟨n, hn, ?_⟩
    rw [get?_declaredTypes, Option.map_eq_some_iff]
    refine ⟨declared, Option.filter_eq_some_iff.2 ⟨hdeclared, ?_⟩, he⟩
    exact (Option.any_eq_true _ _).2 ⟨channel, hchannel, decide_eq_true hmem⟩

end Pass

namespace Graph

variable {g : Graph} {channel : String} {pin : PinRef} {e : TypeExpr} {σ : TypeParam → TypeExpr}

/-- Types for the parameters under which the pins that one channel caches start with the same
type, for every channel. -/
def CachedSolution (g : Graph) (σ : TypeParam → TypeExpr) : Prop :=
  ∀ channel, ∀ pin ∈ g.cachedPins channel, ∀ pin' ∈ g.cachedPins channel, ∀ e e',
    (Pass.start g).pinType? pin = some e → (Pass.start g).pinType? pin' = some e' →
      e.substitute σ = e'.substitute σ

/-- A channel that caches a pin exists. -/
theorem mem_channels_of_mem_cachedPins (h : pin ∈ g.cachedPins channel) : channel ∈ g.channels := by
  unfold cachedPins at h
  split at h
  · rename_i c hc
    exact OrderedMap.mem_iff_exists.2 ⟨c, hc⟩
  · cases h

/-- With current caches a cached pin starts with its declared type. -/
theorem CachesCurrent.pinType?_start (hcurrent : g.CachesCurrent)
    (hchannel : channel ∈ g.channels) :
    (pin ∈ g.cachedPins channel ∧ (Pass.start g).pinType? pin = some e) ↔
      g.Wired channel pin e := by
  rw [mem_cachedPins_iff hcurrent hchannel, Pass.pinType?_start_iff]
  constructor
  · rintro ⟨⟨e', hwired⟩, channel', -, hwired'⟩
    obtain ⟨rfl, rfl⟩ := hwired.unique hwired'
    exact hwired
  · intro hwired
    exact ⟨⟨e, hwired⟩, channel, hchannel, hwired⟩

/-- With current caches the caches ask for what the wiring asks for. -/
theorem CachesCurrent.cachedSolution_iff (hcurrent : g.CachesCurrent) :
    g.CachedSolution σ ↔ g.Solution σ := by
  constructor
  · intro h channel hchannel pin e pin' e' hwired hwired'
    obtain ⟨hpin, hstart⟩ := (hcurrent.pinType?_start hchannel).2 hwired
    obtain ⟨hpin', hstart'⟩ := (hcurrent.pinType?_start hchannel).2 hwired'
    exact h channel pin hpin pin' hpin' e e' hstart hstart'
  · intro h channel pin hpin pin' hpin' e e' hstart hstart'
    have hchannel := mem_channels_of_mem_cachedPins hpin
    exact h channel hchannel pin e pin' e' ((hcurrent.pinType?_start hchannel).1 ⟨hpin, hstart⟩)
      ((hcurrent.pinType?_start hchannel).1 ⟨hpin', hstart'⟩)

end Graph

end ChannelGraph
