import ChannelGraph.Graph.Wiring
import ChannelGraph.Proofs.Graph.PinSet
import ChannelGraph.Proofs.OrderedMap

/-!
# Wiring that is in order

The wiring of a graph is kept twice, as connections and as caches. It is in order
(`Graph.InOrder`) if both say the same and nothing is connected to a channel that does not exist.

In that state cutting a channel is one equation: the channel goes, and with it every connection that
names it (`Tidy.cutChannel_eq`). Several channels are cut like one (`Tidy.foldl_cutChannel`,
`InOrder.foldlM_deleteChannel`), and the wiring stays in order (`InOrder.withoutChannels`).

A channel may have the name that stands for no channel. When a pin is disconnected its connection
names that channel, and the cache does not know. So the equations for cutting are proved from
what is then still true (`Graph.Tidy`).
-/

namespace ChannelGraph

/-- A connection, or the one to nothing where it names one of some channels. -/
def Node.unplugged (gone : List String) : Json → Json
  | .string channel => if channel ∈ gone then noConnection else .string channel
  | v => v

/-- A node of which no pin is connected to one of some channels. -/
def Node.unplug (gone : List String) (n : Node) : Node :=
  { n with connections := n.connections.map fun _ v ↦ unplugged gone v }

/-- A node with some pins, by node and pin, connected to nothing if they are its own. -/
def Node.disconnectAll (name : String) (pins : List PinRef) (n : Node) : Node :=
  pins.foldl (fun n p ↦ if p.node = name then n.setConnection p.pin noConnection else n) n

/-- A node with some pins, by node and pin, connected to nothing if they are its own and have a
connection. -/
def Node.unplugPins (name : String) (pins : List PinRef) (n : Node) : Node :=
  { n with
    connections := n.connections.map fun pin v ↦
      if ⟨name, pin⟩ ∈ pins then noConnection else v }

namespace Node

variable {name pin : String} {pins : List PinRef} {n : Node} {gone gone' : List String}

/-- Taking away channels in two steps takes away all of them. -/
theorem unplugged_unplugged (v : Json) :
    unplugged gone' (unplugged gone v) = unplugged (gone ++ gone') v := by
  cases v with
  | string channel =>
    by_cases hgone : channel ∈ gone
    · simp [unplugged, hgone, noConnection]
    · simp [unplugged, hgone]
  | _ => rfl

/-- Where nothing is connected, nothing is taken away. -/
@[simp]
theorem unplugged_noConnection (gone : List String) :
    unplugged gone noConnection = noConnection := by
  simp [unplugged, noConnection]

/-- A connection to another channel is neither taken away nor made. -/
theorem unplugged_eq_string_iff {channel : String} {v : Json} (hchannel : channel ∉ gone)
    (hnil : channel ≠ nilName) : unplugged gone v = .string channel ↔ v = .string channel := by
  cases v with
  | string c =>
    by_cases hc : c ∈ gone
    · have hne : c ≠ channel := fun h ↦ hchannel (h ▸ hc)
      simp [unplugged, hc, noConnection, hne, hnil.symm]
    · simp [unplugged, hc]
  | _ => simp [unplugged]

/-- Disconnecting pins changes connections only. -/
theorem connections_disconnectAll (name : String) (pins : List PinRef) (n : Node) :
    n.disconnectAll name pins =
      { n with connections := (n.disconnectAll name pins).connections } := by
  induction pins generalizing n with
  | nil => rfl
  | cons p ps ih =>
    rw [disconnectAll, List.foldl_cons]
    split
    · exact ih (n.setConnection p.pin noConnection)
    · exact ih n

/-- Afterwards exactly the pins in question are connected to nothing, and they have a connection
even if they had none before. -/
theorem get?_disconnectAll :
    (n.disconnectAll name pins).connections.get? pin =
      if ⟨name, pin⟩ ∈ pins then some noConnection else n.connections.get? pin := by
  induction pins generalizing n with
  | nil => simp [disconnectAll]
  | cons p ps ih =>
    have hstep : (n.disconnectAll name (p :: ps)).connections.get? pin =
        (Node.disconnectAll name ps
          (if p.node = name then n.setConnection p.pin noConnection else n)).connections.get? pin :=
      rfl
    rw [hstep, ih]
    by_cases hps : (⟨name, pin⟩ : PinRef) ∈ ps
    · rw [if_pos hps, if_pos (List.mem_cons_of_mem _ hps)]
    · rw [if_neg hps]
      by_cases hp : p = ⟨name, pin⟩
      · subst hp
        rw [if_pos rfl, if_pos List.mem_cons_self]
        exact OrderedMap.get?_insert_self _ _ _
      · have hmem : (⟨name, pin⟩ : PinRef) ∉ p :: ps := by
          simp [hps, Ne.symm hp]
        rw [if_neg hmem]
        split
        · rename_i hnode
          refine OrderedMap.get?_insert_of_ne _ _ fun hpin ↦ hp ?_
          cases p
          cases hnode
          cases hpin
          rfl
        · rfl

/-- If they had one, the order of connections stays. -/
theorem keys_disconnectAll (h : ∀ p ∈ pins, p.node = name → p.pin ∈ n.connections) :
    (n.disconnectAll name pins).connections.keys = n.connections.keys := by
  induction pins generalizing n with
  | nil => rfl
  | cons p ps ih =>
    obtain ⟨hp, hps⟩ := List.forall_mem_cons.1 h
    rw [disconnectAll, List.foldl_cons]
    split
    · rename_i hnode
      have hkeys : (n.setConnection p.pin noConnection).connections.keys = n.connections.keys := by
        rw [setConnection, OrderedMap.keys_insert, if_pos (hp hnode)]
      refine (ih fun q hq hqn ↦ ?_).trans hkeys
      rw [OrderedMap.mem_iff, hkeys]
      exact hps q hq hqn
    · exact ih hps

/-- Where the pins have connections, disconnecting them one by one is disconnecting all of them. -/
theorem disconnectAll_eq_unplugPins (h : ∀ p ∈ pins, p.node = name → p.pin ∈ n.connections) :
    n.disconnectAll name pins = n.unplugPins name pins := by
  rw [connections_disconnectAll, unplugPins]
  congr 1
  apply OrderedMap.ext_get?
  · rw [keys_disconnectAll h, OrderedMap.keys_map]
  · intro pin
    rw [get?_disconnectAll, OrderedMap.get?_map]
    split
    · rename_i hpin
      obtain ⟨v, hv⟩ := OrderedMap.mem_iff_exists.1 (h _ hpin rfl)
      rw [hv]
      rfl
    · exact Option.map_id'.symm

end Node

namespace Graph

variable {g : Graph} {name channel : String} {pin : PinRef} {gone gone' : List String}

/-! ### Disconnecting pins -/

/-- Disconnecting pins changes nodes only. -/
theorem foldl_disconnect (pins : List PinRef) (g : Graph) :
    pins.foldl disconnect g = { g with nodes := (pins.foldl disconnect g).nodes } := by
  induction pins generalizing g with
  | nil => rfl
  | cons p ps ih =>
    rw [List.foldl_cons]
    exact ih (g.disconnect p)

/-- Every node is changed by its own pins among them. -/
theorem nodes_foldl_disconnect (pins : List PinRef) (g : Graph) :
    (pins.foldl disconnect g).nodes = g.nodes.map fun name n ↦ n.disconnectAll name pins := by
  induction pins generalizing g with
  | nil => exact (OrderedMap.ext (List.map_id' _)).symm
  | cons p ps ih =>
    rw [List.foldl_cons, ih, disconnect, OrderedMap.modify, OrderedMap.map_map]
    refine OrderedMap.map_congr fun name n _ ↦ ?_
    rw [Node.disconnectAll, Node.disconnectAll, List.foldl_cons]
    simp only [eq_comm]

/-! ### Wiring in order -/

/-- The connection of a pin names a channel. -/
def Names (g : Graph) (pin : PinRef) (channel : String) : Prop :=
  ∃ n, g.nodes.get? pin.node = some n ∧ n.connections.get? pin.pin = some (.string channel)

instance (g : Graph) (pin : PinRef) (channel : String) : Decidable (g.Names pin channel) :=
  decidable_of_iff (((g.nodes.get? pin.node).bind fun n ↦ n.connections.get? pin.pin) =
    some (.string channel)) Option.bind_eq_some_iff

/-- All connections mean something, and the caches say what the connections do, except that the
cache of a channel that is named like no channel may lack pins that are connected to nothing. -/
structure Tidy (g : Graph) : Prop where
  /-- The connections of a node are those of its pins, in the order of the pins. -/
  aligned : ∀ name n, g.nodes.get? name = some n → n.connections.keys = n.pins.keys
  /-- A pin is connected to nothing or to an existing channel, whose name is not empty. -/
  connected : ∀ name n, g.nodes.get? name = some n → ∀ pin v, n.connections.get? pin = some v →
    v = noConnection ∨ ∃ channel ∈ g.channels, channel ≠ "" ∧ v = .string channel
  /-- The connection of a cached pin names the channel. -/
  names : ∀ channel c, g.channels.get? channel = some c → ∀ pin ∈ c.pins, g.Names pin channel
  /-- A pin whose connection names a channel is cached. -/
  complete : ∀ channel c, g.channels.get? channel = some c → channel ≠ nilName →
    ∀ pin, g.Names pin channel → pin ∈ c.pins

/-- The caches and the connections say the same, and all connections mean something. -/
structure InOrder (g : Graph) : Prop where
  /-- No channel has the name that stands for no channel. -/
  unnamed : nilName ∉ g.channels
  /-- The connections of a node are those of its pins, in the order of the pins. -/
  aligned : ∀ name n, g.nodes.get? name = some n → n.connections.keys = n.pins.keys
  /-- A pin is connected to nothing or to an existing channel, whose name is not empty. -/
  connected : ∀ name n, g.nodes.get? name = some n → ∀ pin v, n.connections.get? pin = some v →
    v = noConnection ∨ ∃ channel ∈ g.channels, channel ≠ "" ∧ v = .string channel
  /-- A channel caches exactly the pins whose connection names it. -/
  cached : ∀ channel c, g.channels.get? channel = some c →
    ∀ pin, pin ∈ c.pins ↔ g.Names pin channel

/-- A wiring in order is tidy. -/
theorem InOrder.tidy (h : g.InOrder) : g.Tidy where
  aligned := h.aligned
  connected := h.connected
  names := fun channel c hc pin ↦ (h.cached channel c hc pin).1
  complete := fun channel c hc _ pin ↦ (h.cached channel c hc pin).2

/-- A tidy wiring is in order if no channel is named like no channel. -/
theorem Tidy.inOrder (h : g.Tidy) (hnil : nilName ∉ g.channels) : g.InOrder where
  unnamed := hnil
  aligned := h.aligned
  connected := h.connected
  cached := by
    intro channel c hc pin
    refine ⟨h.names channel c hc pin, h.complete channel c hc ?_ pin⟩
    rintro rfl
    exact hnil (OrderedMap.mem_iff_exists.2 ⟨c, hc⟩)

/-- A graph without some channels, to which no pin is connected any more. -/
def withoutChannels (gone : List String) (g : Graph) : Graph :=
  { g with
    nodes := g.nodes.map fun _ n ↦ n.unplug gone
    channels := g.channels.filter fun name _ ↦ name ∉ gone }

/-- The nodes are the same, unplugged. -/
theorem get?_nodes_withoutChannels (gone : List String) (g : Graph) (name : String) :
    (g.withoutChannels gone).nodes.get? name = (g.nodes.get? name).map (Node.unplug gone) :=
  OrderedMap.get?_map _ _ _

/-- Without some channels the others stay as they are. -/
theorem get?_channels_withoutChannels_iff {c : Channel} :
    (g.withoutChannels gone).channels.get? channel = some c ↔
      channel ∉ gone ∧ g.channels.get? channel = some c := by
  rw [withoutChannels, OrderedMap.get?_filter_keys, decide_eq_true_eq, and_comm]

/-- The channels that are left are those that were not taken away. -/
theorem mem_channels_withoutChannels :
    channel ∈ (g.withoutChannels gone).channels ↔ channel ∈ g.channels ∧ channel ∉ gone := by
  rw [withoutChannels, OrderedMap.mem_filter_keys, decide_eq_true_eq]

/-- Channels can be taken away in two steps. -/
theorem withoutChannels_withoutChannels :
    (g.withoutChannels gone).withoutChannels gone' = g.withoutChannels (gone ++ gone') := by
  have hnodes : ((g.nodes.map fun _ n ↦ n.unplug gone).map fun _ n ↦ n.unplug gone') =
      g.nodes.map fun _ n ↦ n.unplug (gone ++ gone') := by
    rw [OrderedMap.map_map]
    refine OrderedMap.map_congr fun _ n _ ↦ ?_
    simp only [Node.unplug, OrderedMap.map_map, Node.unplugged_unplugged]
  have hchannels : ((g.channels.filter fun name _ ↦ name ∉ gone).filter
      fun name _ ↦ name ∉ gone') = g.channels.filter fun name _ ↦ name ∉ gone ++ gone' := by
    rw [OrderedMap.filter_filter]
    congr 1
    funext name _
    simp
  rw [withoutChannels, withoutChannels, withoutChannels]
  dsimp only
  rw [hnodes, hchannels]

/-- Taking away no channels changes nothing. -/
theorem withoutChannels_nil (g : Graph) : g.withoutChannels [] = g := by
  have hunplugged : ∀ v, Node.unplugged [] v = v := by
    intro v
    cases v <;> simp [Node.unplugged]
  have hchannels : (g.channels.filter fun name _ ↦ name ∉ ([] : List String)) = g.channels :=
    OrderedMap.ext (List.filter_eq_self.2 fun _ _ ↦ by simp)
  simp only [withoutChannels, Node.unplug, hunplugged, OrderedMap.map_id, hchannels]

/-! ### Cutting channels -/

/-- Only channels that exist cache pins. -/
theorem mem_cachedPins : pin ∈ g.cachedPins channel ↔
    ∃ c, g.channels.get? channel = some c ∧ pin ∈ c.pins := by
  unfold cachedPins
  cases g.channels.get? channel with
  | none => simp
  | some c => simp [PinSet.mem_iff]

/-- Whether a pin of a node names a channel is seen in the connections of the node. -/
theorem names_iff_get? {n : Node} {x : String} (hn : g.nodes.get? name = some n) :
    g.Names ⟨name, x⟩ channel ↔ n.connections.get? x = some (.string channel) := by
  constructor
  · rintro ⟨n', hn', hx⟩
    rwa [Option.some.inj (hn.symm.trans hn')]
  · exact fun hx ↦ ⟨n, hn, hx⟩

/-- Without some channels the remaining pins name what they did. -/
theorem names_withoutChannels_iff (hnil : channel ≠ nilName) (hgone : channel ∉ gone) :
    (g.withoutChannels gone).Names pin channel ↔ g.Names pin channel := by
  unfold Names
  rw [get?_nodes_withoutChannels]
  cases g.nodes.get? pin.node with
  | none => simp
  | some n =>
    simp only [Option.map_some, Option.some.injEq, exists_eq_left', Node.unplug,
      OrderedMap.get?_map, Option.map_eq_some_iff, Node.unplugged_eq_string_iff hgone hnil,
      exists_eq_right]

/-- What names one of the other channels still does. -/
theorem Names.withoutChannels (h : g.Names pin channel) (hgone : channel ∉ gone) :
    (g.withoutChannels gone).Names pin channel := by
  obtain ⟨n, hn, hpin⟩ := h
  refine ⟨n.unplug gone, by rw [get?_nodes_withoutChannels, hn]; rfl, ?_⟩
  rw [Node.unplug, OrderedMap.get?_map, hpin]
  exact congrArg some (if_neg hgone)

namespace Tidy

/-- In a tidy wiring cached pins name their channel, so their nodes exist. -/
theorem names_of_mem_cachedPins (h : g.Tidy) (hpin : pin ∈ g.cachedPins channel) :
    g.Names pin channel := by
  obtain ⟨c, hc, hpin⟩ := mem_cachedPins.1 hpin
  exact h.names channel c hc pin hpin

/-- Disconnecting the cached pins of a channel disconnects whatever names it. -/
theorem disconnectAll_cachedPins (h : g.Tidy) {n : Node} (hn : g.nodes.get? name = some n) :
    n.disconnectAll name (g.cachedPins channel) = n.unplug [channel] := by
  have hpins : ∀ p ∈ g.cachedPins channel, p.node = name → p.pin ∈ n.connections := by
    rintro ⟨_, pin⟩ hp rfl
    have hpin := (names_iff_get? hn).1 (h.names_of_mem_cachedPins hp)
    exact OrderedMap.mem_iff_exists.2 ⟨_, hpin⟩
  rw [Node.disconnectAll_eq_unplugPins hpins, Node.unplugPins, Node.unplug]
  congr 1
  refine OrderedMap.map_congr fun pin v hv ↦ ?_
  split
  · rename_i hcached
    have hnames := (names_iff_get? hn).1 (h.names_of_mem_cachedPins hcached)
    rw [Option.some.inj (hv.symm.trans hnames)]
    simp [Node.unplugged]
  · rename_i hcached
    rcases h.connected name n hn pin v hv with rfl | ⟨channel', hmem, -, rfl⟩
    · simp
    · by_cases hsame : channel' = channel
      · -- a connection to the channel that is not cached is one to nothing
        subst hsame
        have hnil : channel' = nilName := by
          by_contra hne
          obtain ⟨c, hc⟩ := OrderedMap.mem_iff_exists.1 hmem
          have hpin := h.complete channel' c hc hne _ ((names_iff_get? hn).2 hv)
          exact hcached (mem_cachedPins.2 ⟨c, hc, hpin⟩)
        rw [hnil]
        exact (Node.unplugged_noConnection _).symm
      · simp [Node.unplugged, hsame]

/-- Where the wiring is tidy, cutting a channel takes away the channel and the connections that name
it, and nothing else. -/
theorem cutChannel_eq (h : g.Tidy) (channel : String) :
    g.cutChannel channel = g.withoutChannels [channel] := by
  have hnodes : ((g.cachedPins channel).foldl disconnect g).nodes =
      g.nodes.map fun _ n ↦ n.unplug [channel] := by
    rw [nodes_foldl_disconnect]
    exact OrderedMap.map_congr fun name n hn ↦ h.disconnectAll_cachedPins hn
  have hchannels : g.channels.erase channel =
      g.channels.filter fun name _ ↦ name ∉ [channel] := by
    simp [OrderedMap.erase]
  rw [cutChannel, foldl_disconnect, hnodes, hchannels]
  rfl

/-- Without some channels the wiring is still tidy. -/
theorem withoutChannels (h : g.Tidy) (gone : List String) : (g.withoutChannels gone).Tidy where
  aligned := by
    intro name n' hn'
    rw [get?_nodes_withoutChannels] at hn'
    obtain ⟨n, hn, rfl⟩ := Option.map_eq_some_iff.1 hn'
    exact (OrderedMap.keys_map _ _).trans (h.aligned name n hn)
  connected := by
    intro name n' hn' pin v' hv'
    rw [get?_nodes_withoutChannels] at hn'
    obtain ⟨n, hn, rfl⟩ := Option.map_eq_some_iff.1 hn'
    rw [Node.unplug, OrderedMap.get?_map] at hv'
    obtain ⟨v, hv, rfl⟩ := Option.map_eq_some_iff.1 hv'
    rcases h.connected name n hn pin v hv with rfl | ⟨channel, hmem, hne, rfl⟩
    · exact .inl (Node.unplugged_noConnection gone)
    · by_cases hgone : channel ∈ gone
      · exact .inl (if_pos hgone)
      · exact .inr ⟨channel, mem_channels_withoutChannels.2 ⟨hmem, hgone⟩, hne, if_neg hgone⟩
  names := by
    intro channel c hc pin hpin
    obtain ⟨hgone, hc⟩ := get?_channels_withoutChannels_iff.1 hc
    exact (h.names channel c hc pin hpin).withoutChannels hgone
  complete := by
    intro channel c hc hnil pin hnames
    obtain ⟨hgone, hc⟩ := get?_channels_withoutChannels_iff.1 hc
    exact h.complete channel c hc hnil pin ((names_withoutChannels_iff hnil hgone).1 hnames)

/-- Cutting several channels takes all of them away. -/
theorem foldl_cutChannel (h : g.Tidy) (gone : List String) :
    gone.foldl cutChannel g = g.withoutChannels gone := by
  induction gone generalizing g with
  | nil => exact (withoutChannels_nil g).symm
  | cons channel gone ih =>
    rw [List.foldl_cons, h.cutChannel_eq, ih (h.withoutChannels [channel]),
      withoutChannels_withoutChannels]
    rfl

/-- Where the wiring is tidy, deleting an existing channel does not stop. -/
theorem deleteChannel_eq (h : g.Tidy) (hchannel : channel ∈ g.channels) :
    g.deleteChannel channel = .ok (g.withoutChannels [channel]) := by
  have hghost : (g.cachedPins channel).find? (·.node ∉ g.nodes) = none := by
    rw [List.find?_eq_none]
    intro pin hpin
    obtain ⟨n, hn, -⟩ := h.names_of_mem_cachedPins hpin
    have hnode : pin.node ∈ g.nodes := OrderedMap.mem_iff_exists.2 ⟨n, hn⟩
    simp [hnode]
  rw [deleteChannel, if_neg (not_not_intro hchannel), hghost, ← h.cutChannel_eq]

/-- Deleting several existing channels does not stop. -/
theorem foldlM_deleteChannel (h : g.Tidy) (hgone : ∀ channel ∈ gone, channel ∈ g.channels)
    (hnodup : gone.Nodup) : gone.foldlM deleteChannel g = .ok (g.withoutChannels gone) := by
  induction gone generalizing g with
  | nil => exact congrArg Except.ok (withoutChannels_nil g).symm
  | cons channel gone ih =>
    obtain ⟨hchannel, hrest⟩ := List.forall_mem_cons.1 hgone
    obtain ⟨hnew, hnodup⟩ := List.nodup_cons.1 hnodup
    -- cutting the first channel leaves the others there, as none of them is the same
    have hstill : ∀ channel' ∈ gone, channel' ∈ (g.withoutChannels [channel]).channels := by
      intro channel' hmem
      refine mem_channels_withoutChannels.2 ⟨hrest channel' hmem, fun heq ↦ hnew ?_⟩
      rwa [← List.mem_singleton.1 heq]
    rw [List.foldlM_cons, h.deleteChannel_eq hchannel]
    show gone.foldlM deleteChannel (g.withoutChannels [channel]) = _
    rw [ih (h.withoutChannels [channel]) hstill hnodup, withoutChannels_withoutChannels]
    rfl

end Tidy

namespace InOrder

/-- A channel that a pin names exists. -/
theorem mem_channels (h : g.InOrder) (hnames : g.Names pin channel) (hnil : channel ≠ nilName) :
    channel ∈ g.channels := by
  obtain ⟨n, hn, hpin⟩ := hnames
  rcases h.connected pin.node n hn pin.pin _ hpin with hv | ⟨channel', hmem, -, hv⟩
  · exact absurd (Json.string.inj hv) hnil
  · rwa [Json.string.inj hv]

/-- Without some channels the wiring is still in order. -/
theorem withoutChannels (h : g.InOrder) (gone : List String) : (g.withoutChannels gone).InOrder :=
  (h.tidy.withoutChannels gone).inOrder fun hmem ↦
    h.unnamed (mem_channels_withoutChannels.1 hmem).1

end InOrder

end Graph

end ChannelGraph
