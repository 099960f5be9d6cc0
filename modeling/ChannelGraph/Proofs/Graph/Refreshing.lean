import ChannelGraph.Graph.Unusable
import ChannelGraph.Proofs.Graph.Wiring
import ChannelGraph.Proofs.Inference.Constraints

/-!
# Rebuilding puts the wiring in order

Whatever the connections and the caches of a graph say, rebuilding looks only at what the declared
pins are connected to (`Graph.wiredTo`). It first rewrites the connections and all caches
(`Graph.rebuildCaches`), after which the wiring is tidy (`tidy_rebuildCaches`); so cutting the
channels with too few pins takes away these channels and nothing else (`refresh_eq`). Deleting them
one by one would check each time that the nodes of their pins are there; they are, so that this
comes to the same (`foldlM_deleteChannel_rebuildCaches`).

`Graph.Refreshed` lists what that makes of a graph, and `tryRefresh_refreshed` says that it is
reached from every state in which the connections can be looked up.
-/

namespace ChannelGraph

namespace Node

variable {n : Node} {pin channel : String} {v : Json}

/-- A pin is connected to what its connection names, unless it has the empty name or that of no
channel. -/
theorem connectedChannel_eq_some_iff : n.connectedChannel pin = some channel ↔
    n.connection pin = .string channel ∧ channel ≠ "" ∧ channel ≠ nilName := by
  unfold connectedChannel connected
  cases n.connection pin with
  | string c =>
    by_cases hc : c = "" ∨ c = nilName
    · have hne : c = channel → ¬(channel ≠ "" ∧ channel ≠ nilName) := by
        rintro rfl ⟨hempty, hnil⟩
        exact hc.elim hempty hnil
      simpa [hc] using hne
    · have hne : c = channel → channel ≠ "" ∧ channel ≠ nilName := by
        rintro rfl
        exact not_or.1 hc
      simpa [hc] using hne
  | _ => simp

/-- Settling a connection keeps the channel that the pin is connected to. -/
theorem settledConnection_eq_string_iff (hnil : channel ≠ nilName) :
    settledConnection (n.connection pin) = .string channel ↔
      n.connectedChannel pin = some channel := by
  rw [connectedChannel_eq_some_iff]
  unfold settledConnection
  split
  · rename_i hblank
    have hne : n.connection pin = .string channel → channel = "" := by
      intro heq
      rw [heq] at hblank
      simpa [Json.isBlank] using hblank
    simpa [noConnection, hnil.symm, hnil] using hne
  · rename_i hblank
    have hne : n.connection pin = .string channel → channel ≠ "" := by
      rintro heq rfl
      simp [heq, Json.isBlank] at hblank
    simpa [hnil] using hne

/-- A settled connection is not empty. -/
theorem settledConnection_ne_empty (v : Json) : settledConnection v ≠ .string "" := by
  unfold settledConnection
  split
  · simp [noConnection, nilName]
  · rintro rfl
    simp [Json.isBlank] at *

/-- Settling does not make a connection that cannot be looked up. -/
theorem isContainer_settledConnection (h : v.isContainer = false) :
    (settledConnection v).isContainer = false := by
  unfold settledConnection
  split
  · rfl
  · exact h

end Node

namespace Graph

variable {g g' : Graph} {name channel : String} {pin : PinRef} {n : Node} {v : Json}
  {channels : OrderedMap String Channel}

/-! ### Rewriting connections -/

/-- A connection that names a channel stays, and any other one becomes that to nothing. -/
theorem resetConnection_cases (channels : OrderedMap String Channel) (v : Json) :
    (∃ channel ∈ channels, v = .string channel ∧ resetConnection channels v = v) ∨
      ((∀ channel ∈ channels, v ≠ .string channel) ∧
        resetConnection channels v = noConnection) := by
  cases v with
  | string c =>
    by_cases hc : c ∈ channels
    · exact .inl ⟨c, hc, rfl, if_pos hc⟩
    · refine .inr ⟨fun channel hchannel heq ↦ hc ?_, if_neg hc⟩
      rwa [Json.string.inj heq]
  | _ => exact .inr ⟨by simp, rfl⟩

/-- Exactly the declared pins have connections afterwards, and each is made from what was there. -/
theorem get?_settleNode (channels : OrderedMap String Channel) (n : Node) (pin : String) :
    (settleNode channels n).connections.get? pin = (n.pins.get? pin).map fun _ ↦
      resetConnection channels (Node.settledConnection (n.connection pin)) := by
  show ((n.align.connections.map _).get? pin) = _
  rw [Node.align, OrderedMap.map_map, OrderedMap.get?_map]

theorem keys_settleNode (channels : OrderedMap String Channel) (n : Node) :
    (settleNode channels n).connections.keys = n.pins.keys :=
  (OrderedMap.keys_map _ _).trans (OrderedMap.keys_map _ _)

/-! ### Rewriting caches -/

/-- The pins that are cached for a channel are those whose connection names it. -/
theorem mem_wiredPins {nodes : OrderedMap String Node} :
    pin ∈ wiredPins nodes channel ↔ ∃ n, nodes.get? pin.node = some n ∧
      n.connections.get? pin.pin = some (.string channel) := by
  rw [wiredPins, PinSet.mem_foldl_insert, List.mem_flatMap]
  constructor
  · rintro (hpin | ⟨⟨name, n⟩, hn, hpin⟩)
    · exact absurd hpin (PinSet.not_mem_empty pin)
    · obtain ⟨⟨x, v⟩, hx, rfl⟩ := List.mem_map.1 hpin
      obtain ⟨hentry, hv⟩ := List.mem_filter.1 hx
      obtain rfl := of_decide_eq_true hv
      exact ⟨n, OrderedMap.get?_eq_some_iff.2 hn, OrderedMap.get?_eq_some_iff.2 hentry⟩
  · rintro ⟨n, hn, hpin⟩
    refine .inr ⟨_, OrderedMap.get?_eq_some_iff.1 hn,
      List.mem_map.2 ⟨(pin.pin, .string channel), ?_, rfl⟩⟩
    exact List.mem_filter.2 ⟨OrderedMap.get?_eq_some_iff.1 hpin, decide_eq_true rfl⟩

/-- Every node is settled by itself. -/
theorem get?_nodes_rebuildCaches (g : Graph) (name : String) :
    g.rebuildCaches.nodes.get? name = (g.nodes.get? name).map (settleNode g.channels) :=
  OrderedMap.get?_map _ _ _

/-- Every channel gets its cache, and nothing else of it changes. -/
theorem get?_channels_rebuildCaches (g : Graph) (channel : String) :
    g.rebuildCaches.channels.get? channel = (g.channels.get? channel).map fun c ↦
      { c with pins := wiredPins (g.nodes.map fun _ n ↦ n.align) channel } :=
  OrderedMap.get?_map _ _ _

theorem keys_channels_rebuildCaches (g : Graph) :
    g.rebuildCaches.channels.keys = g.channels.keys :=
  OrderedMap.keys_map _ _

theorem mem_channels_rebuildCaches : channel ∈ g.rebuildCaches.channels ↔ channel ∈ g.channels :=
  OrderedMap.mem_map

/-- The rebuilt cache of a channel holds the declared pins that were connected to what names it. -/
theorem mem_wiredPins_align : pin ∈ wiredPins (g.nodes.map fun _ n ↦ n.align) channel ↔
    ∃ n, g.nodes.get? pin.node = some n ∧ pin.pin ∈ n.pins ∧
      Node.settledConnection (n.connection pin.pin) = .string channel := by
  rw [mem_wiredPins, OrderedMap.get?_map]
  cases g.nodes.get? pin.node with
  | none => simp
  | some n =>
    simp only [Option.map_some, Option.some.injEq, exists_eq_left', Node.align,
      OrderedMap.get?_map, Option.map_eq_some_iff, OrderedMap.mem_iff_exists,
      exists_and_right]

/-- What names a channel after the rebuilding is a declared pin whose connection was reset to it. -/
theorem names_rebuildCaches : g.rebuildCaches.Names pin channel ↔
    ∃ n, g.nodes.get? pin.node = some n ∧ pin.pin ∈ n.pins ∧ resetConnection g.channels
      (Node.settledConnection (n.connection pin.pin)) = .string channel := by
  unfold Names
  rw [get?_nodes_rebuildCaches]
  cases g.nodes.get? pin.node with
  | none => simp
  | some n =>
    simp only [Option.map_some, Option.some.injEq, exists_eq_left', get?_settleNode,
      Option.map_eq_some_iff, OrderedMap.mem_iff_exists, exists_and_right]

/-- Where a connection names a channel, it names the same one after a reset. -/
theorem resetConnection_eq_string_iff (hne : channel ≠ nilName) :
    resetConnection g.channels v = .string channel ↔
      channel ∈ g.channels ∧ v = .string channel := by
  rcases resetConnection_cases g.channels v with ⟨c, hc, rfl, heq⟩ | ⟨hv, heq⟩
  · rw [heq, iff_and_self]
    intro hname
    rwa [← Json.string.inj hname]
  · rw [heq]
    refine ⟨fun hname ↦ absurd (Json.string.inj hname).symm hne, ?_⟩
    exact fun ⟨hmem, hname⟩ ↦ absurd hname (hv channel hmem)

/-- After all connections were rewritten, exactly the declared pins that were connected to a channel
name it. -/
theorem names_rebuildCaches_iff (hnil : nilName ∉ g.channels) (hchannel : channel ∈ g.channels) :
    g.rebuildCaches.Names pin channel ↔ pin ∈ g.wiredTo channel := by
  have hne : channel ≠ nilName := fun heq ↦ hnil (heq ▸ hchannel)
  rw [mem_wiredTo_iff, names_rebuildCaches]
  unfold Wired
  cases g.nodes.get? pin.node with
  | none => simp
  | some n =>
    simp only [Option.some.injEq, exists_eq_left', resetConnection_eq_string_iff hne, hchannel,
      true_and, Node.settledConnection_eq_string_iff hne]
    cases hpin : n.pins.get? pin.pin with
    | none => simp [OrderedMap.mem_iff_exists, hpin]
    | some declared => simp [OrderedMap.mem_iff_exists, hpin]

/-- After connections and caches were rewritten the wiring is tidy. -/
theorem tidy_rebuildCaches (g : Graph) : g.rebuildCaches.Tidy := by
  have hpins : ∀ channel c', g.rebuildCaches.channels.get? channel = some c' →
      channel ∈ g.channels ∧ c'.pins = wiredPins (g.nodes.map fun _ n ↦ n.align) channel := by
    intro channel c' hc'
    refine ⟨mem_channels_rebuildCaches.1 (OrderedMap.mem_iff_exists.2 ⟨c', hc'⟩), ?_⟩
    rw [get?_channels_rebuildCaches] at hc'
    obtain ⟨c, -, rfl⟩ := Option.map_eq_some_iff.1 hc'
    rfl
  -- what is cached names an existing channel, so its connection is not reset
  have hnames : ∀ channel c', g.rebuildCaches.channels.get? channel = some c' →
      ∀ pin ∈ c'.pins, g.rebuildCaches.Names pin channel := by
    intro channel c' hc' pin hpin
    obtain ⟨hmem, heq⟩ := hpins channel c' hc'
    rw [heq] at hpin
    obtain ⟨n, hn, hdeclared, hsettled⟩ := mem_wiredPins_align.1 hpin
    refine names_rebuildCaches.2 ⟨n, hn, hdeclared, ?_⟩
    rw [hsettled]
    exact if_pos hmem
  -- what still names a channel was not reset, so it named the channel when caches were filled
  have hcomplete : ∀ channel c', g.rebuildCaches.channels.get? channel = some c' →
      channel ≠ nilName → ∀ pin, g.rebuildCaches.Names pin channel → pin ∈ c'.pins := by
    intro channel c' hc' hne pin hpin
    obtain ⟨n, hn, hdeclared, hreset⟩ := names_rebuildCaches.1 hpin
    rw [(hpins channel c' hc').2]
    exact mem_wiredPins_align.2
      ⟨n, hn, hdeclared, ((resetConnection_eq_string_iff hne).1 hreset).2⟩
  refine ⟨fun name n' hn' ↦ ?_, fun name n' hn' pin v hv ↦ ?_,
    hnames, hcomplete⟩
  · rw [get?_nodes_rebuildCaches] at hn'
    obtain ⟨n, -, rfl⟩ := Option.map_eq_some_iff.1 hn'
    exact keys_settleNode g.channels n
  · rw [get?_nodes_rebuildCaches] at hn'
    obtain ⟨n, -, rfl⟩ := Option.map_eq_some_iff.1 hn'
    rw [get?_settleNode] at hv
    obtain ⟨declared, -, rfl⟩ := Option.map_eq_some_iff.1 hv
    rcases resetConnection_cases g.channels (Node.settledConnection (n.connection pin)) with
      ⟨channel, hchannel, heq, hreset⟩ | ⟨-, hreset⟩
    · refine .inr ⟨channel, mem_channels_rebuildCaches.2 hchannel, ?_, hreset.trans heq⟩
      rintro rfl
      exact Node.settledConnection_ne_empty _ heq
    · exact .inl hreset

/-- Unless a channel is named like no channel, the wiring is in order. -/
theorem inOrder_rebuildCaches (hnil : nilName ∉ g.channels) : g.rebuildCaches.InOrder :=
  g.tidy_rebuildCaches.inOrder fun hmem ↦ hnil (mem_channels_rebuildCaches.1 hmem)

/-- No pin is listed twice for a channel. -/
theorem nodup_wiredTo (g : Graph) (channel : String) : (g.wiredTo channel).Nodup :=
  nodup_pinRefs g.nodes fun entry _ ↦ entry.2.pins.nodup_keys.filter _

/-- A rewritten cache is as large as there are declared pins that were connected to the channel. -/
theorem size_rebuildCaches (hnil : nilName ∉ g.channels) {c : Channel}
    (hc : g.rebuildCaches.channels.get? channel = some c) :
    c.pins.size = (g.wiredTo channel).length := by
  have hchannel : channel ∈ g.channels :=
    mem_channels_rebuildCaches.1 (OrderedMap.mem_iff_exists.2 ⟨c, hc⟩)
  refine PinSet.size_eq_length (g.nodup_wiredTo channel) fun pin ↦ ?_
  rw [(inOrder_rebuildCaches hnil).cached channel c hc, names_rebuildCaches_iff hnil hchannel]

/-- The thin channels are those with too few pins in their caches. -/
theorem mem_thinChannels : channel ∈ g.thinChannels ↔
    ∃ c, g.channels.get? channel = some c ∧ c.pins.size < minPins := by
  rw [thinChannels, ← OrderedMap.mem_iff, OrderedMap.mem_iff_exists]
  simp only [OrderedMap.get?_filter, Option.filter_eq_some_iff, decide_eq_true_eq]

/-! ### Rebuilding -/

/-- Rebuilding takes away the channels with too few pins after connections and caches were
rewritten, and nothing else. -/
theorem refresh_eq (g : Graph) :
    g.refresh = g.rebuildCaches.withoutChannels g.rebuildCaches.thinChannels :=
  g.tidy_rebuildCaches.foldl_cutChannel _

/-- No channel with too few pins is found twice. -/
theorem nodup_thinChannels (g : Graph) : g.thinChannels.Nodup :=
  (g.channels.filter _).nodup_keys

/-- Deleting the channels with too few pins one by one, with all that deleting a channel asks for,
is not stopped at any of them and leaves the graph that rebuilding leaves. -/
theorem foldlM_deleteChannel_rebuildCaches (g : Graph) :
    g.rebuildCaches.thinChannels.foldlM deleteChannel g.rebuildCaches = .ok g.refresh := by
  rw [refresh_eq]
  refine g.tidy_rebuildCaches.foldlM_deleteChannel (fun channel hthin ↦ ?_) (nodup_thinChannels _)
  obtain ⟨c, hc, -⟩ := mem_thinChannels.1 hthin
  exact OrderedMap.mem_iff_exists.2 ⟨c, hc⟩

/-- After rebuilding the wiring is tidy. -/
theorem tidy_refresh (g : Graph) : g.refresh.Tidy := by
  rw [refresh_eq]
  exact g.tidy_rebuildCaches.withoutChannels _

/-- After rebuilding the wiring is in order. -/
theorem inOrder_refresh (hnil : nilName ∉ g.refresh.channels) : g.refresh.InOrder :=
  g.tidy_refresh.inOrder hnil

/-- The channels with enough pins are left. -/
theorem le_size_of_withoutChannels {c : Channel} {gone : List String}
    (hgone : ∀ channel ∈ g.thinChannels, channel ∈ gone)
    (hc : (g.withoutChannels gone).channels.get? channel = some c) : minPins ≤ c.pins.size := by
  obtain ⟨hkept, hc⟩ := get?_channels_withoutChannels_iff.1 hc
  by_contra hthin
  exact hkept (hgone channel (mem_thinChannels.2 ⟨c, hc, Nat.lt_of_not_le hthin⟩))

/-- After rebuilding every channel has enough pins. -/
theorem le_size_of_refresh {c : Channel} (hc : g.refresh.channels.get? channel = some c) :
    minPins ≤ c.pins.size := by
  rw [refresh_eq] at hc
  exact le_size_of_withoutChannels (fun _ ↦ id) hc

/-- The channels that are left are those that were not thin after the rebuilding of the caches. -/
theorem mem_channels_refresh : channel ∈ g.refresh.channels ↔
    channel ∈ g.channels ∧ channel ∉ g.rebuildCaches.thinChannels := by
  rw [refresh_eq, mem_channels_withoutChannels, mem_channels_rebuildCaches]

/-- Whether a channel is kept depends only on how many declared pins were connected to it. -/
theorem mem_thinChannels_rebuildCaches_iff (hnil : nilName ∉ g.channels)
    (hchannel : channel ∈ g.channels) :
    channel ∈ g.rebuildCaches.thinChannels ↔ (g.wiredTo channel).length < minPins := by
  obtain ⟨c, hc⟩ := OrderedMap.mem_iff_exists.1 (mem_channels_rebuildCaches.2 hchannel)
  rw [mem_thinChannels, hc]
  simp [size_rebuildCaches hnil hc]

/-- What rebuilding makes of a graph. -/
structure Refreshed (g g' : Graph) : Prop where
  /-- The nodes are the same, in the same order. -/
  nodes : g'.nodes.keys = g.nodes.keys
  /-- The channels that are left are those that at least two declared pins were connected to, in
  their old order. -/
  channels : g'.channels.keys =
    g.channels.keys.filter fun channel ↦ minPins ≤ (g.wiredTo channel).length
  /-- Nothing but the connections of a node changes; they are those of the pins of its part, in the
  order of the pins. -/
  node : ∀ name n', g'.nodes.get? name = some n' → ∃ n, g.nodes.get? name = some n ∧
    n' = { n with connections := n'.connections } ∧ n'.connections.keys = n.pins.keys
  /-- A pin that was connected to a channel that is left still is; all others are connected to
  nothing. -/
  connection : ∀ name n n', g.nodes.get? name = some n → g'.nodes.get? name = some n' →
    ∀ pin v, n'.connections.get? pin = some v →
      (∃ channel ∈ g'.channels, n.connectedChannel pin = some channel ∧ v = .string channel) ∨
        (∀ channel ∈ g'.channels, n.connectedChannel pin ≠ some channel) ∧ v = noConnection
  /-- Nothing but the cache of a channel changes; it holds exactly the pins whose connection names
  the channel, and these are at least two. -/
  channel : ∀ channel c', g'.channels.get? channel = some c' →
    ∃ c, g.channels.get? channel = some c ∧ c' = { c with pins := c'.pins } ∧
      (∀ pin, pin ∈ c'.pins ↔ g'.Names pin channel) ∧ minPins ≤ c'.pins.size
  /-- Nothing else changes. -/
  rest : g' = { g with nodes := g'.nodes, channels := g'.channels }

/-- Every node is settled and then unplugged from the thin channels. -/
theorem get?_nodes_refresh (g : Graph) (name : String) :
    g.refresh.nodes.get? name = (g.nodes.get? name).map fun n ↦
      (settleNode g.channels n).unplug g.rebuildCaches.thinChannels := by
  rw [refresh_eq, get?_nodes_withoutChannels, get?_nodes_rebuildCaches, Option.map_map]
  rfl

/-- Which channels are left depends on the connections alone; their order stays. -/
theorem keys_channels_refresh (hnil : nilName ∉ g.channels) :
    g.refresh.channels.keys =
      g.channels.keys.filter fun channel ↦ minPins ≤ (g.wiredTo channel).length := by
  rw [refresh_eq]
  refine (OrderedMap.keys_filter_keys _ _).trans ?_
  rw [keys_channels_rebuildCaches]
  refine List.filter_congr fun channel hchannel ↦ ?_
  simp [mem_thinChannels_rebuildCaches_iff hnil hchannel]

/-- What rebuilding does to nodes, connections, channels and caches, put together. -/
theorem refreshed_refresh (hnil : nilName ∉ g.channels) : g.Refreshed g.refresh where
  nodes := by
    rw [refresh_eq]
    exact (OrderedMap.keys_map _ _).trans (OrderedMap.keys_map _ _)
  channels := keys_channels_refresh hnil
  node := by
    intro name n' hn'
    rw [get?_nodes_refresh] at hn'
    obtain ⟨n, hn, rfl⟩ := Option.map_eq_some_iff.1 hn'
    exact ⟨n, hn, rfl, (OrderedMap.keys_map _ _).trans (keys_settleNode _ _)⟩
  connection := by
    intro name n n' hn hn' pin v hv
    rw [get?_nodes_refresh, hn] at hn'
    obtain rfl := Option.some.inj hn'
    dsimp only [Node.unplug] at hv
    rw [OrderedMap.get?_map, get?_settleNode] at hv
    obtain ⟨reset, hreset, rfl⟩ := Option.map_eq_some_iff.1 hv
    obtain ⟨declared, -, rfl⟩ := Option.map_eq_some_iff.1 hreset
    have hne : ∀ channel ∈ g.channels, channel ≠ nilName := fun _ h heq ↦ hnil (heq ▸ h)
    -- a connection is lost for one of two reasons: its channel was not there, or is cut now
    rcases resetConnection_cases g.channels (Node.settledConnection (n.connection pin)) with
      ⟨channel, hchannel, hsettled, heq⟩ | ⟨hsettled, heq⟩
    · have hconnected := (Node.settledConnection_eq_string_iff (hne channel hchannel)).1 hsettled
      rw [heq, hsettled]
      by_cases hthin : channel ∈ g.rebuildCaches.thinChannels
      · refine .inr ⟨fun channel' hkept hconnected' ↦ ?_, if_pos hthin⟩
        obtain rfl := Option.some.inj (hconnected.symm.trans hconnected')
        exact (mem_channels_refresh.1 hkept).2 hthin
      · exact .inl ⟨channel, mem_channels_refresh.2 ⟨hchannel, hthin⟩, hconnected, if_neg hthin⟩
    · rw [heq]
      refine .inr ⟨fun channel hkept hconnected ↦ ?_, Node.unplugged_noConnection _⟩
      have hchannel := (mem_channels_refresh.1 hkept).1
      exact hsettled channel hchannel
        ((Node.settledConnection_eq_string_iff (hne channel hchannel)).2 hconnected)
  channel := by
    intro channel c' hc'
    have hunnamed : nilName ∉ g.refresh.channels := fun hmem ↦ hnil (mem_channels_refresh.1 hmem).1
    have hcached := (inOrder_refresh hunnamed).cached channel c' hc'
    have henough := le_size_of_refresh hc'
    rw [refresh_eq, get?_channels_withoutChannels_iff, get?_channels_rebuildCaches] at hc'
    obtain ⟨c, hc, rfl⟩ := Option.map_eq_some_iff.1 hc'.2
    exact ⟨c, hc, rfl, hcached, henough⟩
  rest := by
    rw [refresh_eq]
    rfl

/-- No connection of a node is a value that cannot be looked up. -/
def ConnectionsLookUp (g : Graph) : Prop :=
  ∀ n ∈ g.nodes.values, ∀ v ∈ n.connections.values, v.isContainer = false

instance (g : Graph) : Decidable g.ConnectionsLookUp :=
  inferInstanceAs (Decidable (∀ n ∈ g.nodes.values, ∀ v ∈ n.connections.values, _))

/-- Pins without a connection can be looked up as well, since they count as connected to nothing. -/
theorem ConnectionsLookUp.isContainer_connection (h : g.ConnectionsLookUp)
    (hn : n ∈ g.nodes.values) (pin : String) : (n.connection pin).isContainer = false := by
  unfold Node.connection
  cases hv : n.connections.get? pin with
  | none => rfl
  | some v => exact h n hn v (OrderedMap.mem_values_of_get? hv)

/-- A rebuilding that does not meet a container among the connections is not stopped. -/
theorem tryRefresh_eq_refresh (h : ∀ name n, g.nodes.get? name = some n →
    ∀ pin, (Node.settledConnection (n.connection pin)).isContainer = false) :
    g.tryRefresh = .ok g.refresh := by
  have hnone :
      (g.firstContainer? fun n pin ↦ Node.settledConnection (n.connection pin)) = none := by
    refine List.findSome?_eq_none_iff.2 fun entry hentry ↦ ?_
    rw [Option.map_eq_none_iff, List.find?_eq_none]
    intro v hv
    obtain ⟨pin, -, rfl⟩ := List.mem_map.1 hv
    simp [h entry.1 entry.2 (OrderedMap.get?_eq_some_iff.2 hentry) pin]
  rw [tryRefresh, hnone]

/-- Connections that can be looked up do not stop a rebuilding. -/
theorem ConnectionsLookUp.tryRefresh_eq (h : g.ConnectionsLookUp) :
    g.tryRefresh = .ok g.refresh :=
  tryRefresh_eq_refresh fun _ _ hn pin ↦ Node.isContainer_settledConnection
    (h.isContainer_connection (OrderedMap.mem_values_of_get? hn) pin)

/-- A rebuilding that is not stopped does what rebuilding does. -/
theorem refresh_eq_of_tryRefresh (h : g.tryRefresh = .ok g') : g.refresh = g' := by
  unfold tryRefresh at h
  split at h
  · exact Except.ok.inj h
  · cases h

/-- Rebuilding puts the wiring in order from every state, however wrong its connections and its
caches are. -/
theorem tryRefresh_refreshed (hnil : nilName ∉ g.channels) (hlookup : g.ConnectionsLookUp) :
    ∃ g', g.tryRefresh = .ok g' ∧ g.Refreshed g' :=
  ⟨g.refresh, hlookup.tryRefresh_eq, refreshed_refresh hnil⟩

/-- A graph in which nothing was kept up to date: an unslicer is connected to a channel that does
not exist and keeps the connection of a pin that it does not have, another node has the empty
connection, a third one none at all; one channel caches nothing, one a pin of a missing node. -/
def neglected : Graph where
  nodes := .ofList [
    ("first", {
      part := .unslicer
      connections := .ofList [("extra", .string "lone"), ("input", .string "lost"),
        ("output", .string "shared")] }),
    ("second", { part := .unslicer, connections := .ofList [("output", .string "")] }),
    ("third", {
      part := .transform [] ""
      connections := .ofList [("output", .string "lone"), ("input", .string "shared")] }),
    ("fourth", { part := .gather ⟨1, Nat.one_pos⟩ })]
  channels := .ofList [
    ("lone", {}),
    ("shared", { pins := [⟨"nobody", "input"⟩].foldl PinSet.insert ∅ })]

/-- Of the channels of this graph only the one that two declared pins are connected to is left. -/
theorem tryRefresh_refreshed_neglected :
    ∃ g', neglected.tryRefresh = .ok g' ∧ neglected.Refreshed g' ∧
      g'.channels.keys = ["shared"] := by
  obtain ⟨g', hrun, hrefreshed⟩ :=
    tryRefresh_refreshed (g := neglected) (by decide +kernel) (by decide +kernel)
  refine ⟨g', hrun, hrefreshed, ?_⟩
  rw [hrefreshed.channels]
  decide +kernel

end Graph

end ChannelGraph
