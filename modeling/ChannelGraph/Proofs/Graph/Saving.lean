import ChannelGraph.Document.Conversion
import ChannelGraph.Proofs.Document.Parts
import ChannelGraph.Proofs.Graph.Agreement

/-!
# Saving is rebuilding

A graph whose values are of the kinds that a document has (`Graph.Storable`) can be stored, whatever
its connections and caches say. Building a graph from what was stored gives the graph that a
rebuilding gives, without derived types.

The two ways to that graph differ in what they start from. A stored node has no types, its
connections are settled before they are aligned with the pins of its part, and a stored channel has
no cache. A rebuilding reads none of that: it aligns connections itself (`rebuildCaches_align`),
computes all caches (`rebuildCaches_recache`) and takes types over as they are
(`rebuildCaches_clearTypes`).
-/

namespace ChannelGraph

/-! ### Values that can be stored -/

namespace Node

variable {n : Node}

/-- The values that a node was given are of the kinds that are stored: a positive number, two truth
values, two floating-point numbers, and texts or blank values as connections. -/
structure Storable (n : Node) : Prop where
  /-- The number of instances is positive. -/
  multiplicity : ∃ k : Positive, n.settings.multiplicity = .int (k : Nat)
  /-- Whether the program waits for the node is a truth value. -/
  wait : ∃ b, n.settings.wait = .bool b
  /-- Whether the node takes part is a truth value. -/
  enabled : ∃ b, n.settings.enabled = .bool b
  /-- The first coordinate is a floating-point number. -/
  x : ∃ x, n.settings.x = .float x
  /-- The second coordinate is a floating-point number. -/
  y : ∃ y, n.settings.y = .float y
  /-- Every connection is a text or blank. -/
  connections : ∀ pin v, n.connections.get? pin = some v → ∃ s, settledConnection v = .string s

/-- A node without types whose blank connections are those to nothing. -/
def stored (n : Node) : Node :=
  { n.clearTypes with connections := n.connections.map fun _ v ↦ settledConnection v }

theorem settledConnection_settledConnection (v : Json) :
    settledConnection (settledConnection v) = settledConnection v := by
  unfold settledConnection
  split
  · rfl
  · rfl

/-- A stored node has the same settled connections. -/
theorem settledConnection_connection (n : Node) (pin : String) :
    settledConnection (n.stored.connection pin) = settledConnection (n.connection pin) := by
  rw [connection, connection, stored]
  dsimp only
  rw [OrderedMap.get?_map]
  cases n.connections.get? pin with
  | none => rfl
  | some v => exact settledConnection_settledConnection v

/-- Connections that were settled are settled. -/
theorem align_align (n : Node) : n.align.align = n.align := by
  refine congrArg (fun cs ↦ { n with connections := cs }) ?_
  refine OrderedMap.map_congr fun pin declared hpin ↦ ?_
  have hdeclared : n.pins.get? pin = some declared := hpin
  have hconnection : n.align.connection pin = settledConnection (n.connection pin) := by
    rw [connection, align, OrderedMap.get?_map, hdeclared]
    rfl
  rw [hconnection, settledConnection_settledConnection]

/-- Settling connections before they are aligned makes no difference. -/
theorem align_stored (n : Node) : n.stored.align = n.clearTypes.align := by
  refine congrArg (fun cs ↦ { n.clearTypes with connections := cs }) ?_
  exact OrderedMap.map_congr fun pin _ _ ↦ n.settledConnection_connection pin

/-- The connections of a node that can be stored settle to texts. -/
theorem Storable.exists_connection (h : n.Storable) (pin : String) :
    ∃ s, settledConnection (n.connection pin) = .string s := by
  unfold connection
  cases hv : n.connections.get? pin with
  | none => exact ⟨nilName, rfl⟩
  | some v => exact h.connections pin v hv

/-- The texts of the connections of a node, once they are settled. -/
theorem Storable.exists_texts (h : n.Storable) : ∃ texts : OrderedMap String String,
    Checked.entries (Checked.leaf Lenient.text)
      (n.connections.map fun _ v ↦ settledConnection v).entries = .ok texts ∧
    (texts.map fun _ s ↦ Json.string s) = n.connections.map fun _ v ↦ settledConnection v := by
  have htext : ∀ pin v, n.connections.get? pin = some v →
      ∃ s, Lenient.text (settledConnection v) = .ok s ∧ settledConnection v = .string s := by
    intro pin v hv
    obtain ⟨s, hs⟩ := h.connections pin v hv
    refine ⟨s, ?_, hs⟩
    rw [hs]
    rfl
  obtain ⟨texts, -, hkeys, hvalue⟩ := OrderedMap.exists_tryMap htext
  have htexts : (texts.map fun _ s ↦ Json.string s) =
      n.connections.map fun _ v ↦ settledConnection v := by
    refine OrderedMap.map_eq_map hkeys fun pin v hv ↦ ?_
    obtain ⟨s, hs, heq⟩ := hvalue pin v hv
    exact ⟨s, hs, heq.symm⟩
  refine ⟨texts, ?_, htexts⟩
  rw [← htexts]
  exact Checked.entries_written fun _ _ ↦ rfl

/-- A node with such values can be stored, and what is stored of it is the node without types. -/
theorem Storable.exists_toRecord (h : n.Storable) :
    ∃ r, n.toRecord = .ok r ∧ ofRecord r = n.stored := by
  obtain ⟨k, hk⟩ := h.multiplicity
  obtain ⟨wait, hwait⟩ := h.wait
  obtain ⟨enabled, henabled⟩ := h.enabled
  obtain ⟨x, hx⟩ := h.x
  obtain ⟨y, hy⟩ := h.y
  obtain ⟨texts, htexts, hconnections⟩ := h.exists_texts
  refine ⟨⟨n.part, enabled, wait, k, x, y, texts⟩, ?_, ?_⟩
  · rw [toRecord, hk, hwait, henabled, hx, hy]
    dsimp only
    rw [htexts, k.leaf_positive]
    rfl
  · have hsettings :
        NodeSettings.ofRecord ⟨n.part, enabled, wait, k, x, y, texts⟩ = n.settings := by
      rw [NodeSettings.ofRecord, ← hk, ← hwait, ← henabled, ← hx, ← hy]
    rw [ofRecord, hsettings]
    dsimp only
    rw [hconnections]
    rfl

end Node

namespace Graph

variable {g : Graph}

/-- The values that a graph was given are of the kinds that are stored. -/
structure Storable (g : Graph) : Prop where
  /-- Whether the program is a command is a truth value. -/
  isCommand : ∃ b, g.isCommand = .bool b
  /-- The values of the nodes can be stored. -/
  node : ∀ name n, g.nodes.get? name = some n → n.Storable
  /-- The capacity of a channel is a natural number. -/
  channel : ∀ name c, g.channels.get? name = some c → ∃ k : Nat, c.capacity = .int k

/-- The connections of such a graph do not stop a rebuilding. -/
theorem Storable.tryRefresh_eq (h : g.Storable) : g.tryRefresh = .ok g.refresh := by
  refine tryRefresh_eq_refresh fun name n hn pin ↦ ?_
  obtain ⟨s, hs⟩ := (h.node name n hn).exists_connection pin
  rw [hs]
  rfl

/-! ### What a rebuilding does not read -/

/-- A rebuilding sees only what aligning leaves of a node. -/
theorem rebuildCaches_align {nodes : OrderedMap String Node}
    (h : (nodes.map fun _ n ↦ n.align) = g.nodes.map fun _ n ↦ n.align) :
    rebuildCaches { g with nodes := nodes } = g.rebuildCaches := by
  let reset (_ : String) (n : Node) : Node :=
    { n with connections := n.connections.map fun _ v ↦ resetConnection g.channels v }
  have hsettled (nodes : OrderedMap String Node) :
      (nodes.map fun _ n ↦ settleNode g.channels n) = (nodes.map fun _ n ↦ n.align).map reset :=
    (OrderedMap.map_map (fun _ n ↦ n.align) reset nodes).symm
  simp only [rebuildCaches, hsettled, h]

theorem keys_nodes_rebuildCaches (g : Graph) : g.rebuildCaches.nodes.keys = g.nodes.keys :=
  OrderedMap.keys_map _ _

/-- A rebuilding takes derived types over as they are, so they may as well be forgotten before. -/
theorem rebuildCaches_clearTypes (g : Graph) :
    g.clearTypes.rebuildCaches = g.rebuildCaches.clearTypes := by
  have hreset : resetConnection g.clearTypes.channels = resetConnection g.channels := by
    funext v
    cases v with
    | string channel => simp only [resetConnection, mem_channels_clearTypes]
    | _ => rfl
  have hsettle (n : Node) : settleNode g.clearTypes.channels n.clearTypes =
      (settleNode g.channels n).clearTypes := by
    rw [settleNode, hreset]
    rfl
  -- nodes and channels are the same if the keys are, in their order, and what stands under each
  have hnodes : g.clearTypes.rebuildCaches.nodes = g.rebuildCaches.clearTypes.nodes := by
    refine OrderedMap.ext_get? ?_ fun name ↦ ?_
    · rw [keys_nodes_rebuildCaches, keys_nodes_clearTypes, keys_nodes_clearTypes,
        keys_nodes_rebuildCaches]
    · rw [get?_nodes_rebuildCaches, get?_nodes_clearTypes, get?_nodes_clearTypes,
        get?_nodes_rebuildCaches, Option.map_map, Option.map_map]
      exact congrArg (Option.map · (g.nodes.get? name)) (funext hsettle)
  have hpins : wiredPins (g.clearTypes.nodes.map fun _ n ↦ n.align) =
      wiredPins (g.nodes.map fun _ n ↦ n.align) := by
    funext channel
    refine PinSet.ext fun pin ↦ ?_
    rw [mem_wiredPins_align, mem_wiredPins_align, get?_nodes_clearTypes]
    cases g.nodes.get? pin.node with
    | none => rfl
    | some n =>
      simp only [Option.map_some, Option.some.injEq, exists_eq_left']
      rfl
  have hchannels : g.clearTypes.rebuildCaches.channels =
      g.rebuildCaches.clearTypes.channels := by
    refine OrderedMap.ext_get? ?_ fun name ↦ ?_
    · rw [keys_channels_rebuildCaches, keys_channels_clearTypes, keys_channels_clearTypes,
        keys_channels_rebuildCaches]
    · rw [get?_channels_rebuildCaches, get?_channels_clearTypes, get?_channels_clearTypes,
        get?_channels_rebuildCaches, Option.map_map, Option.map_map, hpins]
      rfl
  calc g.clearTypes.rebuildCaches
      = { g with
          nodes := g.clearTypes.rebuildCaches.nodes
          channels := g.clearTypes.rebuildCaches.channels } := rfl
    _ = { g with
          nodes := g.rebuildCaches.clearTypes.nodes
          channels := g.rebuildCaches.clearTypes.channels } := by rw [hnodes, hchannels]

/-- Forgetting derived types after a rebuilding or before it makes no difference. -/
theorem refresh_clearTypes (g : Graph) : g.clearTypes.refresh = g.refresh.clearTypes := by
  have hthin (g : Graph) : g.clearTypes.thinChannels = g.thinChannels := by
    rw [thinChannels, thinChannels, OrderedMap.keys_filter, OrderedMap.keys_filter]
    show ((g.channels.entries.map _).filter _).map _ = _
    rw [List.filter_map, List.map_map]
    rfl
  have hwithout (gone : List String) (g : Graph) :
      g.clearTypes.withoutChannels gone = (g.withoutChannels gone).clearTypes := by
    have hnodes : (g.clearTypes.nodes.map fun _ n ↦ n.unplug gone) =
        (g.nodes.map fun _ n ↦ n.unplug gone).map fun _ n ↦ n.clearTypes := by
      rw [clearTypes, OrderedMap.map_map, OrderedMap.map_map]
      rfl
    have hchannels : (g.clearTypes.channels.filter fun name _ ↦ name ∉ gone) =
        (g.channels.filter fun name _ ↦ name ∉ gone).map fun _ c ↦ { c with type := none } :=
      OrderedMap.ext List.filter_map
    rw [withoutChannels, hnodes, hchannels]
    rfl
  rw [refresh_eq, refresh_eq, rebuildCaches_clearTypes, hthin, hwithout]

/-! ### Saving and loading -/

/-- What a graph is before it is rebuilt from a document that has its nodes without their types and
its channels without their caches. -/
theorem ofDocument_eq {d : Document} (hname : d.name = g.name)
    (hpath : d.packagePath = g.packagePath) (hcommand : .bool d.isCommand = g.isCommand)
    (hnodes : (d.nodes.map fun _ r ↦ (Node.ofRecord r).align) =
      g.nodes.map fun _ n ↦ n.clearTypes.align)
    (hchannels : (d.channels.map fun _ r ↦ Channel.ofRecord r) =
      g.channels.map fun _ c ↦ { capacity := c.capacity }) :
    ofDocument d = g.refresh.clearTypes := by
  have haligned : ((g.nodes.map fun _ n ↦ n.clearTypes.align).map fun _ n ↦ n.align) =
      g.clearTypes.nodes.map fun _ n ↦ n.align := by
    rw [clearTypes, OrderedMap.map_map, OrderedMap.map_map]
    exact OrderedMap.map_congr fun _ n _ ↦ n.clearTypes.align_align
  have huncached : (g.channels.map fun _ c ↦ ({ capacity := c.capacity } : Channel)) =
      g.clearTypes.channels.map fun _ c ↦ { c with pins := ∅ } := by
    rw [clearTypes, OrderedMap.map_map]
  have hcaches : rebuildCaches
      { g.clearTypes with
        nodes := g.nodes.map fun _ n ↦ n.clearTypes.align
        channels := g.clearTypes.channels.map fun _ c ↦ { c with pins := ∅ } } =
      g.clearTypes.rebuildCaches := by
    rw [rebuildCaches_recache (fun _ _ ↦ ∅)
      { g.clearTypes with nodes := g.nodes.map fun _ n ↦ n.clearTypes.align }]
    exact rebuildCaches_align haligned
  rw [ofDocument, hname, hpath, hcommand, hnodes, hchannels, huncached, ← refresh_clearTypes,
    refresh_eq, refresh_eq g.clearTypes, ← hcaches]
  rfl

/-- What is stored of a graph, node by node and channel by channel. -/
theorem Storable.exists_toDocument (h : g.Storable) :
    ∃ d, g.toDocument = .ok d ∧ ofDocument d = g.refresh.clearTypes ∧
      d.nodes.keys = g.nodes.keys ∧ d.channels.keys = g.channels.keys ∧
      (∀ name n, g.nodes.get? name = some n →
        ∃ r, d.nodes.get? name = some r ∧ Node.ofRecord r = n.stored) ∧
      ∀ name c, g.channels.get? name = some c →
        ∃ r, d.channels.get? name = some r ∧ Channel.ofRecord r = { capacity := c.capacity } := by
  obtain ⟨isCommand, hcommand⟩ := h.isCommand
  -- no node and no channel stops the writing, so the keys stay in their order
  obtain ⟨nodes, hnodes, hnodeKeys, hnode⟩ :=
    OrderedMap.exists_tryMap fun name n hn ↦ (h.node name n hn).exists_toRecord
  have hrecord : ∀ name c, g.channels.get? name = some c →
      ∃ r, c.toRecord = .ok r ∧ Channel.ofRecord r = { capacity := c.capacity } := by
    intro name c hc
    obtain ⟨k, hk⟩ := h.channel name c hc
    refine ⟨⟨k⟩, ?_, ?_⟩
    · rw [Channel.toRecord, hk]
      rfl
    · rw [hk]
      rfl
  obtain ⟨channels, hchannels, hchannelKeys, hchannel⟩ := OrderedMap.exists_tryMap hrecord
  refine ⟨⟨g.name, g.packagePath, isCommand, nodes, channels⟩, ?_, ?_, hnodeKeys, hchannelKeys,
    hnode, hchannel⟩
  · rw [toDocument, hnodes, hchannels, hcommand]
    rfl
  · refine ofDocument_eq rfl rfl hcommand.symm (OrderedMap.map_eq_map hnodeKeys ?_)
      (OrderedMap.map_eq_map hchannelKeys hchannel)
    intro name n hn
    obtain ⟨r, hr, hstored⟩ := hnode name n hn
    refine ⟨r, hr, ?_⟩
    rw [hstored, n.align_stored]

/-- Saving and loading is rebuilding: a graph whose values can be stored is stored, whatever its
connections and caches say, and the graph that is built from what was stored is the rebuilt one
without derived types. Every part that was stored is read again as it was. -/
theorem Storable.ofDocument_toDocument (h : g.Storable) :
    ∃ d r, g.toDocument = .ok d ∧ g.tryRefresh = .ok r ∧ ofDocument d = r.clearTypes ∧
      ∀ n ∈ d.nodes.values,
        Part.ofConfig (.string n.part.kind.word) n.part.config = .ok n.part := by
  obtain ⟨d, hd, hload, -⟩ := h.exists_toDocument
  exact ⟨d, g.refresh, hd, h.tryRefresh_eq, hload, fun n _ ↦ n.part.ofConfig_config⟩

/-- The graph in which nothing was kept up to date, with types that it does not have. -/
def outdated : Graph where
  nodes := neglected.nodes.map fun _ n ↦ { n with typeParams := .ofList [("T", "int")] }
  channels := neglected.channels.map fun _ c ↦ { c with type := some (.name "int") }

theorem storable_outdated : outdated.Storable where
  isCommand := ⟨false, rfl⟩
  node := by
    have htext : ∀ v, Lenient.text v ≠ .error .notText → ∃ s, v = .string s := by
      intro v hv
      cases v with
      | string s => exact ⟨s, rfl⟩
      | _ => exact absurd rfl hv
    have hall : ∀ n ∈ outdated.nodes.values, n.settings = {} ∧ ∀ v ∈ n.connections.values,
        Lenient.text (Node.settledConnection v) ≠ .error .notText := by
      decide +kernel
    intro name n hn
    obtain ⟨hsettings, hconnections⟩ := hall n (OrderedMap.mem_values_of_get? hn)
    exact {
      multiplicity := ⟨⟨1, Nat.one_pos⟩, congrArg NodeSettings.multiplicity hsettings⟩
      wait := ⟨true, congrArg NodeSettings.wait hsettings⟩
      enabled := ⟨true, congrArg NodeSettings.enabled hsettings⟩
      x := ⟨.zero false, congrArg NodeSettings.x hsettings⟩
      y := ⟨.zero false, congrArg NodeSettings.y hsettings⟩
      connections := fun pin v hv ↦ htext _ (hconnections v (OrderedMap.mem_values_of_get? hv)) }
  channel := by
    have hall : ∀ c ∈ outdated.channels.values, c.capacity = .int 0 := by decide +kernel
    exact fun name c hc ↦ ⟨0, hall c (OrderedMap.mem_values_of_get? hc)⟩

theorem Storable.ofDocument_toDocument_outdated :
    outdated.Storable ∧ ∃ d r, outdated.toDocument = .ok d ∧ outdated.tryRefresh = .ok r ∧
      ofDocument d = r.clearTypes ∧ (ofDocument d).channels.keys = ["shared"] := by
  obtain ⟨d, r, hd, hr, heq, -⟩ := storable_outdated.ofDocument_toDocument
  refine ⟨storable_outdated, d, r, hd, hr, heq, ?_⟩
  rw [heq, keys_channels_clearTypes, ← refresh_eq_of_tryRefresh hr]
  decide +kernel

end Graph

end ChannelGraph
