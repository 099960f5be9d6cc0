import ChannelGraph.Proofs.Graph.Deleting
import ChannelGraph.Proofs.Graph.Refreshing
import ChannelGraph.Proofs.Inference.Frame

/-!
# Deleting a channel while the wiring is changed

Between two rebuildings pins are connected, and channels and nodes are deleted, in any order
(`Graph.Rewired`). A connection is changed without the caches, but a deletion looks at the caches
only, so what it does depends on how far these have fallen behind.

Two facts hold in every state of such a run. Connections are texts, and a cached pin of an existing
node has a connection (`Graph.Declared`); so a deletion that is not stopped disconnects exactly the
cached pins of the channel (`Declared.deleteChannel_eq`). And where no pin was connected to one
channel or away from it, the wiring is in order at that channel (`Graph.InOrderAt`). Both are kept
by every step, failed ones included.

`Rewired.deleteChannel_cases` is what follows for the deletion of a channel. It does not always
disconnect the pins that are connected to the channel and no others: `deleteChannel_movedOutput` is
a run after which it does neither.
-/

namespace ChannelGraph

namespace Graph

variable {g g' : Graph} {name channel other text : String} {pin p : PinRef} {n : Node}
  {c : Channel} {pins : List PinRef} {given : Json}

/-- A graph with a pin connected to what a text names, if the node of the pin exists. -/
def plugPin (pin : PinRef) (text : String) (g : Graph) : Graph :=
  { g with nodes := g.nodes.modify pin.node fun n ↦ n.setConnection pin.pin (.string text) }

/-- Afterwards the pin names the channel of this name, and all others name what they did. -/
theorem names_plugPin_iff (hnode : pin.node ∈ g.nodes) :
    (g.plugPin pin text).Names p channel ↔
      if p = pin then text = channel else g.Names p channel := by
  obtain ⟨n, hn⟩ := OrderedMap.mem_iff_exists.1 hnode
  unfold Names plugPin
  rw [OrderedMap.get?_modify]
  obtain ⟨name, x⟩ := p
  obtain ⟨name', y⟩ := pin
  dsimp only at hn ⊢
  by_cases hsame : name = name'
  · subst hsame
    rw [if_pos rfl, hn]
    simp only [Option.map_some, Option.some.injEq, exists_eq_left', Node.setConnection,
      OrderedMap.get?_insert, PinRef.mk.injEq, true_and]
    split <;> simp
  · simp [hsame]

/-- A graph with some pins connected to nothing. -/
def unplugPins (pins : List PinRef) (g : Graph) : Graph :=
  { g with nodes := g.nodes.map fun name n ↦ n.unplugPins name pins }

/-- Every node is unplugged by itself. -/
theorem get?_nodes_unplugPins (pins : List PinRef) (g : Graph) (name : String) :
    (g.unplugPins pins).nodes.get? name = (g.nodes.get? name).map (Node.unplugPins name pins) :=
  OrderedMap.get?_map _ _ _

/-- Exactly the pins in question name nothing any more. -/
theorem names_unplugPins_iff (hnil : channel ≠ nilName) :
    (g.unplugPins pins).Names pin channel ↔ g.Names pin channel ∧ pin ∉ pins := by
  unfold Names
  rw [get?_nodes_unplugPins]
  cases g.nodes.get? pin.node with
  | none => simp
  | some n =>
    simp only [Option.map_some, Option.some.injEq, exists_eq_left', Node.unplugPins,
      OrderedMap.get?_map]
    by_cases hpin : pin ∈ pins <;> simp [hpin, noConnection, hnil.symm]

/-- A pin that is connected to nothing stays so. -/
theorem Names.unplugPins_nil (h : g.Names pin nilName) (pins : List PinRef) :
    (g.unplugPins pins).Names pin nilName := by
  obtain ⟨n, hn, hpin⟩ := h
  refine ⟨n.unplugPins pin.node pins, by rw [get?_nodes_unplugPins, hn]; rfl, ?_⟩
  rw [Node.unplugPins, OrderedMap.get?_map, hpin]
  exact congrArg some (ite_self _)

/-! ### Steps and runs -/

/-- What changes the wiring between two rebuildings. -/
inductive Rewiring where
  | connect (pin : PinRef) (given : Json)
  | deleteChannel (channel : String)
  | deleteNode (name : String) (prune : Bool)

namespace Rewiring

/-- Do a step, which may be refused or stop part way. -/
def run (g : Graph) : Rewiring → Except (Interrupted GraphFault Graph) Graph
  | connect pin given => (g.connect pin.node pin.pin given).mapError fun fault ↦ ⟨fault, g⟩
  | deleteChannel channel => g.deleteChannel channel
  | deleteNode name prune => g.tryDeleteNode name prune

/-- A step is to connect a pin to a channel or one away from it. -/
def Rewires (g : Graph) (channel : String) : Rewiring → Prop
  | connect pin given => given = .string channel ∨ g.Names pin channel
  | deleteChannel _ => False
  | deleteNode _ _ => False

end Rewiring

/-- A graph that was rebuilt at some time, with no channel named like no channel, and whose wiring
was changed since, by steps that meet a condition. A step that fails leaves what it changed. -/
inductive Rewired (allowed : Graph → Rewiring → Prop) : Graph → Prop
  | refreshed {g g' : Graph} (h : g.tryRefresh = .ok g') (hnil : nilName ∉ g'.channels) :
    Rewired allowed g'
  | step {g : Graph} (h : Rewired allowed g) (e : Rewiring) (he : allowed g e) :
    Rewired allowed (stateAfter (Rewiring.run g e))

/-! ### What a step does -/

/-- Connecting a pin is refused over the pin first and over the channel then. -/
theorem connect_eq (hn : g.nodes.get? pin.node = some n) (given : Json) :
    g.connect pin.node pin.pin given =
      if pin.pin ∉ n.pins then .error (.unknownPin pin.node pin.pin)
      else
        match g.connectionRefusal? given with
        | some fault => .error fault
        | none => g.editNode pin.node fun n ↦ n.setConnection pin.pin given := by
  rw [connect, node, hn]
  rfl

/-- A pin is connected to a text, or nothing happens. -/
theorem stateAfter_connect_cases (g : Graph) (pin : PinRef) (given : Json) :
    stateAfter (Rewiring.run g (.connect pin given)) = g ∨
      ∃ text, given = .string text ∧ pin.node ∈ g.nodes ∧
        stateAfter (Rewiring.run g (.connect pin given)) = g.plugPin pin text := by
  cases hn : g.nodes.get? pin.node with
  | none =>
    rw [Rewiring.run, connect, node, hn]
    exact .inl rfl
  | some n =>
    rw [Rewiring.run, connect_eq hn]
    split
    · exact .inl rfl
    · cases given with
      | string text =>
        dsimp only [connectionRefusal?]
        split
        · exact .inl rfl
        · refine .inr ⟨text, rfl, OrderedMap.mem_iff_exists.2 ⟨n, hn⟩, ?_⟩
          rw [editNode, node, hn]
          rfl
      | _ => exact .inl rfl

/-! ### What every step keeps -/

/-- Every connection is a text, and a cached pin of an existing node has a connection. -/
structure Declared (g : Graph) : Prop where
  /-- No channel has the name that stands for no channel. -/
  unnamed : nilName ∉ g.channels
  /-- A connection is a text. -/
  texts : ∀ name n, g.nodes.get? name = some n → ∀ pin v, n.connections.get? pin = some v →
    ∃ text, v = .string text
  /-- A cached pin has a connection, if its node exists. -/
  cached : ∀ channel c, g.channels.get? channel = some c → ∀ pin ∈ c.pins,
    ∀ n, g.nodes.get? pin.node = some n → pin.pin ∈ n.connections

/-- A wiring in order has only texts as connections, and caches only pins that have one. -/
theorem InOrder.declared (h : g.InOrder) : g.Declared where
  unnamed := h.unnamed
  texts := by
    intro name n hn pin v hv
    rcases h.connected name n hn pin v hv with rfl | ⟨channel, -, -, rfl⟩
    · exact ⟨_, rfl⟩
    · exact ⟨_, rfl⟩
  cached := by
    intro channel c hc pin hpin n hn
    have hnames := (h.cached channel c hc pin).1 hpin
    exact OrderedMap.mem_iff_exists.2 ⟨_, (names_iff_get? hn).1 hnames⟩

namespace Declared

/-- Taking away nodes, channels and cached pins keeps cached pins declared. -/
theorem mono (h : g.Declared)
    (hnodes : ∀ name n, g'.nodes.get? name = some n → g.nodes.get? name = some n)
    (hchannels : ∀ channel c', g'.channels.get? channel = some c' →
      ∃ c, g.channels.get? channel = some c ∧ ∀ pin ∈ c'.pins, pin ∈ c.pins) : g'.Declared where
  unnamed := by
    intro hmem
    obtain ⟨c', hc'⟩ := OrderedMap.mem_iff_exists.1 hmem
    obtain ⟨c, hc, -⟩ := hchannels nilName c' hc'
    exact h.unnamed (OrderedMap.mem_iff_exists.2 ⟨c, hc⟩)
  texts := fun name n hn ↦ h.texts name n (hnodes name n hn)
  cached := by
    intro channel c' hc' pin hpin n hn
    obtain ⟨c, hc, hpins⟩ := hchannels channel c' hc'
    exact h.cached channel c hc pin (hpins pin hpin) n (hnodes pin.node n hn)

/-- Connecting a pin to a text keeps cached pins declared. -/
theorem plugPin (h : g.Declared) (pin : PinRef) (text : String) :
    (g.plugPin pin text).Declared where
  unnamed := h.unnamed
  texts := by
    intro name n' hn' x v hv
    rw [Graph.plugPin, OrderedMap.get?_modify] at hn'
    split at hn'
    · obtain ⟨n, hn, rfl⟩ := Option.map_eq_some_iff.1 hn'
      rw [Node.setConnection, OrderedMap.get?_insert] at hv
      split at hv
      · exact ⟨text, (Option.some.inj hv).symm⟩
      · exact h.texts _ n hn x v hv
    · exact h.texts name n' hn' x v hv
  cached := by
    intro channel c hc p hp n' hn'
    rw [Graph.plugPin, OrderedMap.get?_modify] at hn'
    split at hn'
    · rename_i hnode
      obtain ⟨n, hn, rfl⟩ := Option.map_eq_some_iff.1 hn'
      refine OrderedMap.mem_insert.2 (.inr ?_)
      exact h.cached channel c hc p hp n (hnode ▸ hn)
    · exact h.cached channel c hc p hp n' hn'

/-- Disconnecting pins keeps cached pins declared, since a disconnected pin has a connection
still. -/
theorem unplugPins (h : g.Declared) (pins : List PinRef) : (g.unplugPins pins).Declared where
  unnamed := h.unnamed
  texts := by
    intro name n' hn' pin v' hv'
    rw [get?_nodes_unplugPins] at hn'
    obtain ⟨n, hn, rfl⟩ := Option.map_eq_some_iff.1 hn'
    rw [Node.unplugPins, OrderedMap.get?_map] at hv'
    obtain ⟨v, hv, rfl⟩ := Option.map_eq_some_iff.1 hv'
    split
    · exact ⟨_, rfl⟩
    · exact h.texts name n hn pin v hv
  cached := by
    intro channel c hc pin hpin n' hn'
    rw [get?_nodes_unplugPins] at hn'
    obtain ⟨n, hn, rfl⟩ := Option.map_eq_some_iff.1 hn'
    exact OrderedMap.mem_map.2 (h.cached channel c hc pin hpin n hn)

/-! ### Deleting a channel -/

/-- Disconnecting cached pins one by one is to disconnect them all at once. -/
theorem foldl_disconnect_eq (h : g.Declared) (hc : g.channels.get? channel = some c)
    (hpins : ∀ pin ∈ pins, pin ∈ c.pins) : pins.foldl disconnect g = g.unplugPins pins := by
  rw [foldl_disconnect, nodes_foldl_disconnect, Graph.unplugPins]
  congr 1
  refine OrderedMap.map_congr fun name n hn ↦ Node.disconnectAll_eq_unplugPins ?_
  rintro ⟨_, x⟩ hpin rfl
  exact h.cached channel c hc _ (hpins _ hpin) n hn

/-- Deleting a channel disconnects its cached pins, and nothing else happens. -/
theorem deleteChannel_eq (h : g.Declared) (hc : g.channels.get? channel = some c)
    (hnodes : ∀ pin ∈ c.pins, pin.node ∈ g.nodes) : g.deleteChannel channel =
      .ok { g.unplugPins c.pins.toList with channels := g.channels.erase channel } := by
  have hmem : channel ∈ g.channels := OrderedMap.mem_iff_exists.2 ⟨c, hc⟩
  have hcached : g.cachedPins channel = c.pins.toList := by rw [cachedPins, hc]
  have hghost : c.pins.toList.find? (·.node ∉ g.nodes) = none := by
    refine List.find?_eq_none.2 fun pin hpin ↦ ?_
    simp [hnodes pin hpin]
  rw [deleteChannel, if_neg (not_not_intro hmem), hcached, hghost, cutChannel, hcached,
    h.foldl_disconnect_eq hc fun _ ↦ id]
  rfl

/-- A cached pin of a missing node stops the deletion of its channel. -/
theorem deleteChannel_ghost (h : g.Declared) (hc : g.channels.get? channel = some c)
    (hghost : ∃ pin ∈ c.pins, pin.node ∉ g.nodes) :
    ∃ ghost ∈ c.pins, ghost.node ∉ g.nodes ∧
      g.deleteChannel channel = .error ⟨.ghostPin ghost.node channel,
        g.unplugPins (c.pins.toList.takeWhile (·.node ∈ g.nodes))⟩ := by
  have hmem : channel ∈ g.channels := OrderedMap.mem_iff_exists.2 ⟨c, hc⟩
  have hcached : g.cachedPins channel = c.pins.toList := by rw [cachedPins, hc]
  rw [deleteChannel, if_neg (not_not_intro hmem), hcached]
  cases hfind : c.pins.toList.find? (·.node ∉ g.nodes) with
  | none =>
    obtain ⟨pin, hpin, hnode⟩ := hghost
    exact absurd (decide_eq_true hnode) (List.find?_eq_none.1 hfind pin hpin)
  | some ghost =>
    refine ⟨ghost, List.mem_of_find?_eq_some hfind, by simpa using List.find?_some hfind, ?_⟩
    dsimp only
    rw [h.foldl_disconnect_eq hc fun pin hpin ↦ (List.takeWhile_sublist _).mem hpin]

/-- The deletion of a channel disconnects only pins that it caches, also when it is stopped. -/
theorem stateAfter_deleteChannel_cases (h : g.Declared) (channel : String) :
    stateAfter (g.deleteChannel channel) = g ∨
      ∃ c, g.channels.get? channel = some c ∧
        (stateAfter (g.deleteChannel channel) =
            { g.unplugPins c.pins.toList with channels := g.channels.erase channel } ∨
          (∃ ghost ∈ c.pins, ghost.node ∉ g.nodes) ∧ ∃ pins, (∀ pin ∈ pins, pin ∈ c.pins) ∧
            stateAfter (g.deleteChannel channel) = g.unplugPins pins) := by
  cases hc : g.channels.get? channel with
  | none =>
    rw [deleteChannel, if_pos (OrderedMap.get?_eq_none_iff.1 hc)]
    exact .inl rfl
  | some c =>
    refine .inr ⟨c, rfl, ?_⟩
    by_cases hghost : ∃ pin ∈ c.pins, pin.node ∉ g.nodes
    · obtain ⟨ghost, -, -, heq⟩ := h.deleteChannel_ghost hc hghost
      rw [heq]
      exact .inr ⟨hghost, _, fun pin hpin ↦ (List.takeWhile_sublist _).mem hpin, rfl⟩
    · rw [h.deleteChannel_eq hc fun pin hpin ↦ of_not_not fun hnode ↦ hghost ⟨pin, hpin, hnode⟩]
      exact .inl rfl

/-- Taking away a channel keeps cached pins declared. -/
theorem erase_channel (h : g.Declared) (channel : String) :
    Declared { g with channels := g.channels.erase channel } := by
  refine h.mono (fun _ _ ↦ id) fun other c hc ↦ ⟨c, ?_, fun _ ↦ id⟩
  exact (OrderedMap.get?_erase_eq_some_iff.1 hc).2

/-- The deletion of a channel keeps cached pins declared, also when it is stopped. -/
theorem stateAfter_deleteChannel (h : g.Declared) (channel : String) :
    (stateAfter (g.deleteChannel channel)).Declared := by
  rcases h.stateAfter_deleteChannel_cases channel with heq | ⟨c, -, heq | ⟨-, pins, -, heq⟩⟩
  · rwa [heq]
  · rw [heq]
    exact (h.unplugPins c.pins.toList).erase_channel channel
  · rw [heq]
    exact h.unplugPins pins

/-! ### Deleting a node -/

/-- Deleting a node is not stopped by one of its connections. -/
theorem tryDeleteNode_eq (h : g.Declared) (name : String) (prune : Bool) :
    g.tryDeleteNode name prune = g.deleteNode name prune := by
  cases hn : g.nodes.get? name with
  | none => rw [tryDeleteNode, hn]; rfl
  | some n =>
    refine tryDeleteNode_of_forall hn ?_ prune
    rintro ⟨x, v⟩ hentry
    obtain ⟨text, rfl⟩ := h.texts name n hn x v (OrderedMap.get?_eq_some_iff.2 hentry)
    rfl

end Declared

/-- A graph after a node was deleted and before channels are. -/
structure NodeDetached (g : Graph) (name : String) (g' : Graph) : Prop where
  /-- The node is gone, all others are as they were. -/
  nodes : g'.nodes = g.nodes.erase name
  /-- The channels lose the pins of the node that name them, and only these. -/
  caches : ∀ channel c', g'.channels.get? channel = some c' →
    ∃ c, g.channels.get? channel = some c ∧
      ∀ pin, pin ∈ c'.pins ↔ pin ∈ c.pins ∧ ¬(pin.node = name ∧ g.Names pin channel)

/-- Only the pins of the node are disconnected. -/
theorem NodeDetached.names_iff (h : g.NodeDetached name g') :
    g'.Names pin channel ↔ g.Names pin channel ∧ pin.node ≠ name := by
  unfold Names
  rw [h.nodes, OrderedMap.get?_erase]
  by_cases hnode : pin.node = name <;> simp [hnode]

/-- A node is deleted before the channels that it leaves with too few pins. -/
theorem stateAfter_deleteNode_cases (hnil : nilName ∉ g.channels) (name : String) (prune : Bool) :
    stateAfter (g.deleteNode name prune) = g ∨ ∃ (g' : Graph) (thin : List String),
      g.NodeDetached name g' ∧
        stateAfter (g.deleteNode name prune) = stateAfter (thin.foldlM deleteChannel g') := by
  rw [deleteNode]
  cases hn : g.nodes.get? name with
  | none => exact .inl rfl
  | some n =>
    -- the loop over the connections takes pins out of caches only, and the node goes afterwards
    have hdetached := detached_foldl hnil name n.connections.entries
    dsimp only
    generalize n.connections.entries.foldl (detach name) (g, []) = state at hdetached
    have hnode : g.NodeDetached name { state.1 with nodes := state.1.nodes.erase name } := by
      refine ⟨?_, fun channel c' hc' ↦ ?_⟩
      · rw [hdetached.rest]
      · have hmem : channel ∈ g.channels :=
          hdetached.mem_channels_iff.1 (OrderedMap.mem_iff_exists.2 ⟨c', hc'⟩)
        obtain ⟨c, hc⟩ := OrderedMap.mem_iff_exists.1 hmem
        obtain ⟨c'', hc'', -, hpins⟩ := hdetached.caches channel c hc
        obtain rfl := Option.some.inj (hc'.symm.trans hc'')
        refine ⟨c, hc, fun pin ↦ (hpins pin).trans ?_⟩
        obtain ⟨node, x⟩ := pin
        refine and_congr_right fun _ ↦ not_congr (and_congr_right ?_)
        rintro rfl
        exact (names_iff_mem_entries hn).symm
    cases prune with
    | false => exact .inr ⟨_, [], hnode, rfl⟩
    | true => exact .inr ⟨_, state.2, hnode, rfl⟩

/-- Detaching a node keeps cached pins declared. -/
theorem Declared.of_nodeDetached (h : g.Declared) (hdetached : g.NodeDetached name g') :
    g'.Declared := by
  refine h.mono (fun name' n hn ↦ ?_) fun channel c' hc' ↦ ?_
  · rw [hdetached.nodes] at hn
    exact (OrderedMap.get?_erase_eq_some_iff.1 hn).2
  · obtain ⟨c, hc, hpins⟩ := hdetached.caches channel c' hc'
    exact ⟨c, hc, fun pin hpin ↦ ((hpins pin).1 hpin).1⟩

/-- Every step keeps cached pins declared, also when it is refused or stopped. -/
theorem Declared.stateAfter_run (h : g.Declared) (e : Rewiring) :
    (stateAfter (Rewiring.run g e)).Declared := by
  cases e with
  | connect pin given =>
    rcases g.stateAfter_connect_cases pin given with heq | ⟨text, rfl, -, heq⟩
    · rwa [heq]
    · -- what every deletion of a channel keeps holds when the node is gone, and so at the end of
      -- the loop
      rw [heq]
      exact h.plugPin pin text
  | deleteChannel channel => exact h.stateAfter_deleteChannel channel
  | deleteNode name prune =>
    rw [Rewiring.run, h.tryDeleteNode_eq]
    rcases stateAfter_deleteNode_cases h.unnamed name prune with heq | ⟨g', thin, hdetached, heq⟩
    · rwa [heq]
    · rw [heq]
      exact stateAfter_foldlM (fun _ channel hs ↦ hs.stateAfter_deleteChannel channel) thin
        (h.of_nodeDetached hdetached)

/-! ### What the steps keep that leave a channel alone -/

/-- The wiring is in order at a channel: the channel caches exactly the pins whose connection names
it, and no other channel caches such a pin. -/
structure InOrderAt (g : Graph) (channel : String) : Prop where
  /-- The cache of the channel says what the connections do. -/
  cached : ∀ c, g.channels.get? channel = some c → ∀ pin, pin ∈ c.pins ↔ g.Names pin channel
  /-- The caches of the other channels have none of its pins. -/
  alone : ∀ other c, other ≠ channel → g.channels.get? other = some c →
    ∀ pin ∈ c.pins, ¬g.Names pin channel

/-- A pin names one channel at most. -/
theorem Names.unique (h : g.Names pin channel) (h' : g.Names pin other) : channel = other := by
  obtain ⟨n, hn, hpin⟩ := h
  exact Json.string.inj (Option.some.inj (hpin.symm.trans ((names_iff_get? hn).1 h')))

/-- A wiring in order is in order at every channel. -/
theorem InOrder.inOrderAt (h : g.InOrder) (channel : String) : g.InOrderAt channel where
  cached := h.cached channel
  alone := fun other c hne hc pin hpin hnames ↦
    hne (((h.cached other c hc pin).1 hpin).unique hnames)

namespace InOrderAt

/-- The wiring stays in order at a channel if pins are only taken away, from its cache exactly those
that are no longer connected to it. -/
theorem mono (h : g.InOrderAt channel)
    (hnames : ∀ pin, g'.Names pin channel → g.Names pin channel)
    (hcaches : ∀ other c', g'.channels.get? other = some c' →
      ∃ c, g.channels.get? other = some c ∧ ∀ pin ∈ c'.pins, pin ∈ c.pins)
    (hsame : ∀ c c', g.channels.get? channel = some c → g'.channels.get? channel = some c' →
      ∀ pin ∈ c.pins, pin ∈ c'.pins ↔ g'.Names pin channel) : g'.InOrderAt channel where
  cached := by
    intro c' hc' pin
    obtain ⟨c, hc, hpins⟩ := hcaches channel c' hc'
    refine ⟨fun hpin ↦ (hsame c c' hc hc' pin (hpins pin hpin)).1 hpin, fun hpin ↦ ?_⟩
    exact (hsame c c' hc hc' pin ((h.cached c hc pin).2 (hnames pin hpin))).2 hpin
  alone := by
    intro other c' hne hc' pin hpin hpin'
    obtain ⟨c, hc, hpins⟩ := hcaches other c' hc'
    exact h.alone other c hne hc pin (hpins pin hpin) (hnames pin hpin')

/-- Connecting a pin keeps the wiring in order at the channels that the pin was not connected to and
is not connected to now. -/
theorem plugPin (h : g.InOrderAt channel) (hnode : pin.node ∈ g.nodes) (htext : text ≠ channel)
    (hpin : ¬g.Names pin channel) : (g.plugPin pin text).InOrderAt channel := by
  have hnames : ∀ p, (g.plugPin pin text).Names p channel ↔ g.Names p channel := by
    intro p
    rw [names_plugPin_iff hnode]
    split
    · rename_i heq
      subst heq
      exact iff_of_false htext hpin
    · rfl
  refine h.mono (fun p ↦ (hnames p).1) (fun other c hc ↦ ⟨c, hc, fun _ ↦ id⟩)
    fun c c' hc hc' p _ ↦ ?_
  obtain rfl := Option.some.inj (hc.symm.trans hc')
  rw [hnames]
  exact h.cached c hc p

/-- Disconnecting pins that another channel caches keeps the wiring in order at the channel. -/
theorem unplugPins (h : g.InOrderAt channel) (hnil : channel ≠ nilName) (hne : other ≠ channel)
    (hc : g.channels.get? other = some c) (hpins : ∀ pin ∈ pins, pin ∈ c.pins) :
    (g.unplugPins pins).InOrderAt channel := by
  refine h.mono (fun p hp ↦ ((names_unplugPins_iff hnil).1 hp).1)
    (fun other c hc ↦ ⟨c, hc, fun _ ↦ id⟩) fun c₀ c' hc₀ hc' p _ ↦ ?_
  obtain rfl := Option.some.inj (hc₀.symm.trans hc')
  rw [names_unplugPins_iff hnil, h.cached c₀ hc₀, iff_self_and]
  exact fun hp hmem ↦ h.alone other c hne hc p (hpins p hmem) hp

/-- Taking away a channel keeps the wiring in order at the channels that are left. -/
theorem erase_channel (h : g.InOrderAt channel) (other : String) :
    InOrderAt { g with channels := g.channels.erase other } channel where
  cached := fun c hc ↦ h.cached c (OrderedMap.get?_erase_eq_some_iff.1 hc).2
  alone := fun other' c hne hc ↦ h.alone other' c hne (OrderedMap.get?_erase_eq_some_iff.1 hc).2

/-- At a channel where the wiring is in order no cached pin is without a node. -/
theorem mem_nodes (h : g.InOrderAt channel) (hc : g.channels.get? channel = some c)
    (hpin : pin ∈ c.pins) : pin.node ∈ g.nodes := by
  obtain ⟨n, hn, -⟩ := (h.cached c hc pin).1 hpin
  exact OrderedMap.mem_iff_exists.2 ⟨n, hn⟩

/-- Deleting another channel leaves the order at this one alone, whatever the cache of that one
says. -/
theorem stateAfter_deleteChannel (h : g.InOrderAt channel) (hdeclared : g.Declared)
    (hnil : channel ≠ nilName) (other : String) :
    (stateAfter (g.deleteChannel other)).InOrderAt channel := by
  rcases hdeclared.stateAfter_deleteChannel_cases other with
    heq | ⟨c, hc, heq | ⟨⟨ghost, hghost, hnode⟩, pins, hpins, heq⟩⟩
  · rwa [heq]
  · rw [heq]
    by_cases hne : other = channel
    · subst hne
      refine ⟨fun c' hc' ↦ ?_, fun other' c' hne hc' pin hpin hnames ↦ ?_⟩
      · exact absurd rfl (OrderedMap.get?_erase_eq_some_iff.1 hc').1
      · have hother := (OrderedMap.get?_erase_eq_some_iff.1 hc').2
        exact h.alone other' c' hne hother pin hpin ((names_unplugPins_iff hnil).1 hnames).1
    · exact (h.unplugPins hnil hne hc fun _ ↦ id).erase_channel other
  · rw [heq]
    refine h.unplugPins hnil (fun hsame ↦ ?_) hc hpins
    subst hsame
    exact hnode (h.mem_nodes hc hghost)

/-- Detaching a node keeps the wiring in order at every channel. -/
theorem of_nodeDetached (h : g.InOrderAt channel) (hdetached : g.NodeDetached name g') :
    g'.InOrderAt channel := by
  refine h.mono (fun pin hpin ↦ (hdetached.names_iff.1 hpin).1) (fun other c' hc' ↦ ?_)
    fun c c' hc hc' pin hpin ↦ ?_
  · obtain ⟨c, hc, hpins⟩ := hdetached.caches other c' hc'
    exact ⟨c, hc, fun pin hpin ↦ ((hpins pin).1 hpin).1⟩
  · obtain ⟨c₀, hc₀, hpins⟩ := hdetached.caches channel c' hc'
    obtain rfl := Option.some.inj (hc.symm.trans hc₀)
    have hnames := (h.cached c hc pin).1 hpin
    rw [hpins, hdetached.names_iff, and_iff_right hpin, and_iff_right hnames, and_iff_left hnames]

/-- A step that connects no pin to a channel or away from it keeps the wiring in order there. -/
theorem stateAfter_run (h : g.InOrderAt channel) (hdeclared : g.Declared) (hnil : channel ≠ nilName)
    {e : Rewiring} (he : ¬e.Rewires g channel) :
    (stateAfter (Rewiring.run g e)).InOrderAt channel := by
  cases e with
  | connect pin given =>
    rcases g.stateAfter_connect_cases pin given with heq | ⟨text, rfl, hnode, heq⟩
    · rwa [heq]
    · obtain ⟨htext, hpin⟩ := not_or.1 he
      rw [heq]
      exact h.plugPin hnode (fun hsame ↦ htext (congrArg Json.string hsame)) hpin
  | deleteChannel other => exact h.stateAfter_deleteChannel hdeclared hnil other
  | deleteNode name prune =>
    rw [Rewiring.run, hdeclared.tryDeleteNode_eq]
    rcases stateAfter_deleteNode_cases hdeclared.unnamed name prune with
      heq | ⟨g', thin, hdetached, heq⟩
    · rwa [heq]
    · -- the order at the channel is kept only together with the declared pins
      have hboth : (stateAfter (thin.foldlM deleteChannel g')).Declared ∧
          (stateAfter (thin.foldlM deleteChannel g')).InOrderAt channel :=
        stateAfter_foldlM (P := fun s : Graph ↦ s.Declared ∧ s.InOrderAt channel)
          (fun s other hs ↦ ⟨hs.1.stateAfter_deleteChannel other,
            hs.2.stateAfter_deleteChannel hs.1 hnil other⟩) thin
          ⟨hdeclared.of_nodeDetached hdetached, h.of_nodeDetached hdetached⟩
      rw [heq]
      exact hboth.2

end InOrderAt

/-! ### Runs -/

/-- However a graph was rewired, its connections are texts and its cached pins declared. -/
theorem Rewired.declared {allowed : Graph → Rewiring → Prop} (h : g.Rewired allowed) :
    g.Declared := by
  induction h with
  | @refreshed g g' hrun hnil =>
    obtain rfl := refresh_eq_of_tryRefresh hrun
    exact (inOrder_refresh hnil).declared
  | step _ e _ ih => exact ih.stateAfter_run e

/-- Where no step connects a pin to a channel or away from it, the wiring stays in order there. -/
theorem Rewired.inOrderAt {allowed : Graph → Rewiring → Prop} (h : g.Rewired allowed)
    (hnil : channel ≠ nilName) (hallowed : ∀ g e, allowed g e → ¬e.Rewires g channel) :
    g.InOrderAt channel := by
  induction h with
  | @refreshed g g' hrun hunnamed =>
    obtain rfl := refresh_eq_of_tryRefresh hrun
    exact (inOrder_refresh hunnamed).inOrderAt channel
  | step hg e he ih => exact ih.stateAfter_run hg.declared hnil (hallowed _ e he)

/-! ### What a deletion does -/

/-- A channel was taken out of the wiring, and nothing else was. -/
structure CutOff (g : Graph) (channel : String) (g' : Graph) : Prop where
  /-- A connection to anything else is what it was. -/
  others : ∀ pin other, other ≠ channel → g.Names pin other → g'.Names pin other
  /-- No connection is to the channel any more. -/
  gone : ∀ pin, ¬g'.Names pin channel

/-- Disconnecting some pins takes a channel out of the wiring if these are the pins that are
connected to it, whatever else may be connected to nothing. -/
theorem cutOff_unplugPins_iff (hnil : channel ≠ nilName) :
    g.CutOff channel { g.unplugPins pins with channels := g.channels.erase channel } ↔
      (∀ pin ∈ pins, ∀ other, g.Names pin other → other = channel ∨ other = nilName) ∧
        ∀ pin, g.Names pin channel → pin ∈ pins := by
  have hnames : ∀ pin other, other ≠ nilName →
      (Names { g.unplugPins pins with channels := g.channels.erase channel } pin other ↔
        g.Names pin other ∧ pin ∉ pins) :=
    fun pin other hother ↦ names_unplugPins_iff hother
  constructor
  · rintro ⟨hothers, hgone⟩
    refine ⟨fun pin hpin other hother ↦ ?_, fun pin hpin ↦ ?_⟩
    · by_contra hne
      obtain ⟨hchannel, hother'⟩ := not_or.1 hne
      exact ((hnames pin other hother').1 (hothers pin other hchannel hother)).2 hpin
    · by_contra hmem
      exact hgone pin ((hnames pin channel hnil).2 ⟨hpin, hmem⟩)
  · -- connections to nothing are the only ones that disconnecting does not change
    rintro ⟨honly, hall⟩
    refine ⟨fun pin other hne hother ↦ ?_, fun pin hpin ↦ ?_⟩
    · by_cases hother' : other = nilName
      · subst hother'
        exact hother.unplugPins_nil pins
      · refine (hnames pin other hother').2 ⟨hother, fun hpin ↦ ?_⟩
        rcases honly pin hpin other hother with heq | heq
        · exact hne heq
        · exact hother' heq
    · obtain ⟨hpin, hmem⟩ := (hnames pin channel hnil).1 hpin
      exact hmem (hall pin hpin)

/-- A channel is deleted after any changes to the wiring. A cached pin of a missing node stops the
deletion. Otherwise exactly the cached pins are disconnected, which takes the channel out of the
wiring if and only if its cache has all pins that are connected to it and none that is connected to
another channel. That is so where no pin was connected to the channel or away from it since the
caches were rebuilt. -/
theorem Rewired.deleteChannel_cases {allowed : Graph → Rewiring → Prop} (h : g.Rewired allowed)
    (hc : g.channels.get? channel = some c) :
    ((∃ pin ∈ c.pins, pin.node ∉ g.nodes) → ∃ ghost ∈ c.pins, ghost.node ∉ g.nodes ∧
      g.deleteChannel channel = .error ⟨.ghostPin ghost.node channel,
        g.unplugPins (c.pins.toList.takeWhile (·.node ∈ g.nodes))⟩) ∧
    ((∀ pin ∈ c.pins, pin.node ∈ g.nodes) → ∃ g', g.deleteChannel channel = .ok g' ∧
      g' = { g.unplugPins c.pins.toList with channels := g.channels.erase channel } ∧
      (g.CutOff channel g' ↔
        (∀ pin ∈ c.pins, ∀ other, g.Names pin other → other = channel ∨ other = nilName) ∧
          ∀ pin, g.Names pin channel → pin ∈ c.pins)) ∧
    ((∀ g e, allowed g e → ¬e.Rewires g channel) →
      ∃ g', g.deleteChannel channel = .ok g' ∧ g.CutOff channel g') := by
  have hnil : channel ≠ nilName := by
    rintro rfl
    exact h.declared.unnamed (OrderedMap.mem_iff_exists.2 ⟨c, hc⟩)
  refine ⟨h.declared.deleteChannel_ghost hc, fun hnodes ↦ ?_, fun hallowed ↦ ?_⟩
  · exact ⟨_, h.declared.deleteChannel_eq hc hnodes, rfl, cutOff_unplugPins_iff hnil⟩
  · have horder := h.inOrderAt hnil hallowed
    refine ⟨_, h.declared.deleteChannel_eq hc fun pin ↦ horder.mem_nodes hc,
      (cutOff_unplugPins_iff hnil).2 ⟨fun pin hpin other hother ↦ ?_, fun pin ↦ ?_⟩⟩
    · exact .inl (hother.unique ((horder.cached c hc pin).1 hpin))
    · exact (horder.cached c hc pin).2

/-- In `unslicedTwice` the input of the second unslicer is disconnected, which leaves it in the
cache of the inner channel. -/
def inputDropped : Graph :=
  stateAfter (Rewiring.run unslicedTwice.refresh (.connect ⟨"second", "input"⟩ noConnection))

/-- The graph with the input dropped comes about without rewiring pins of the outer channel. -/
theorem rewired_inputDropped : inputDropped.Rewired fun g e ↦ ¬e.Rewires g "outer" := by
  have hlookup : unslicedTwice.ConnectionsLookUp := by decide +kernel
  have hstart : unslicedTwice.refresh.Rewired fun g e ↦ ¬e.Rewires g "outer" :=
    .refreshed hlookup.tryRefresh_eq (by decide +kernel)
  have hpin : ¬unslicedTwice.refresh.Names ⟨"second", "input"⟩ "outer" := by decide +kernel
  exact hstart.step _ (not_or.2 ⟨by decide, hpin⟩)

/-- The outer channel is deleted as if all caches were current. -/
theorem Rewired.deleteChannel_cases_inputDropped :
    inputDropped.Rewired (fun g e ↦ ¬e.Rewires g "outer") ∧
      (∃ c, inputDropped.channels.get? "inner" = some c ∧ ⟨"second", "input"⟩ ∈ c.pins ∧
        ¬inputDropped.Names ⟨"second", "input"⟩ "inner") ∧
      ∃ c g', inputDropped.channels.get? "outer" = some c ∧
        inputDropped.deleteChannel "outer" = .ok g' ∧ inputDropped.CutOff "outer" g' := by
  have hstale : (inputDropped.channels.get? "inner").any (⟨"second", "input"⟩ ∈ ·.pins) := by
    decide +kernel
  obtain ⟨inner, hinner, hpin⟩ := (Option.any_eq_true _ _).1 hstale
  have hnames : ¬inputDropped.Names ⟨"second", "input"⟩ "inner" := by decide +kernel
  obtain ⟨c, hc⟩ := OrderedMap.mem_iff_exists.1
    (by decide +kernel : "outer" ∈ inputDropped.channels)
  obtain ⟨-, -, hcut⟩ := rewired_inputDropped.deleteChannel_cases hc
  obtain ⟨g', hrun, hcutOff⟩ := hcut fun _ _ ↦ id
  exact ⟨rewired_inputDropped, ⟨inner, hinner, of_decide_eq_true hpin, hnames⟩,
    c, g', hc, hrun, hcutOff⟩

/-- In `unslicedTwice` the output of the transformation is moved to the inner channel, and the
output of the second unslicer is connected to the outer one. -/
def movedOutput : Graph :=
  stateAfter (Rewiring.run
    (stateAfter (Rewiring.run unslicedTwice.refresh
      (.connect ⟨"source", "output"⟩ (.string "inner"))))
    (.connect ⟨"second", "output"⟩ (.string "outer")))

/-- The graph with the output moved comes about if any pin may be connected anew. -/
theorem rewired_movedOutput : movedOutput.Rewired fun _ _ ↦ True := by
  have hlookup : unslicedTwice.ConnectionsLookUp := by decide +kernel
  have hstart : unslicedTwice.refresh.Rewired fun _ _ ↦ True :=
    .refreshed hlookup.tryRefresh_eq (by decide +kernel)
  exact (hstart.step _ trivial).step _ trivial

/-- Deleting the outer channel then disconnects the moved pin from the inner channel, and leaves the
other pin connected to a channel that does not exist. -/
theorem deleteChannel_movedOutput : movedOutput.Rewired (fun _ _ ↦ True) ∧
    "outer" ∈ movedOutput.channels ∧ ∃ g', movedOutput.deleteChannel "outer" = .ok g' ∧
      (movedOutput.Names ⟨"source", "output"⟩ "inner" ∧ g'.Names ⟨"source", "output"⟩ nilName) ∧
      (movedOutput.Names ⟨"second", "output"⟩ "outer" ∧ g'.Names ⟨"second", "output"⟩ "outer") ∧
      ¬movedOutput.CutOff "outer" g' := by
  have houter : "outer" ∈ movedOutput.channels := by decide +kernel
  have hmoved : movedOutput.Names ⟨"source", "output"⟩ "inner" := by decide +kernel
  have hadded : movedOutput.Names ⟨"second", "output"⟩ "outer" := by decide +kernel
  have hrun : (movedOutput.deleteChannel "outer").toOption.any fun g' ↦
      g'.Names ⟨"source", "output"⟩ nilName ∧ g'.Names ⟨"second", "output"⟩ "outer" := by
    decide +kernel
  cases hdelete : movedOutput.deleteChannel "outer" with
  | error i =>
    rw [hdelete] at hrun
    cases hrun
  | ok g' =>
    rw [hdelete] at hrun
    obtain ⟨hlost, hleft⟩ := of_decide_eq_true hrun
    exact ⟨rewired_movedOutput, houter, g', rfl, ⟨hmoved, hlost⟩, ⟨hadded, hleft⟩,
      fun hcut ↦ hcut.gone _ hleft⟩

end Graph

end ChannelGraph
