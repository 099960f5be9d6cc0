import ChannelGraph.Proofs.Graph.Editing

/-!
# Deleting agrees with rebuilding

Deleting a node patches the caches of the channels that it names and looks at no other channel;
rebuilding computes every cache again and looks at all of them. Both lead to the same graph if the
graph was as a rebuilding leaves it (`Graph.Fresh`).

Two facts are behind that. Rebuilding reads the connections and the names of the channels, never
what is cached (`rebuildCaches_recache`), and it changes nothing where the wiring is in order
(`InOrder.rebuildCaches_eq`). So whatever was done to the caches when the node went, rebuilding them
gives the graph without the node and its pins, and only which channels are cut is left to compare:
one that the node does not name keeps all its pins, and these were enough
(`Fresh.mem_thinChannels_withoutNode_iff`).
-/

namespace ChannelGraph

namespace Graph

variable {g : Graph} {name channel : String} {n : Node} {gone gone' : List String}

/-! ### Rebuilding where nothing has to be done -/

/-- Only which channels are taken away matters, not in which order or how often. -/
theorem withoutChannels_congr (h : ∀ channel, channel ∈ gone ↔ channel ∈ gone') :
    g.withoutChannels gone = g.withoutChannels gone' := by
  have hunplug : Node.unplug gone = Node.unplug gone' := by
    funext n
    refine congrArg (fun cs ↦ { n with connections := cs }) (OrderedMap.map_congr fun _ v _ ↦ ?_)
    cases v with
    | string channel => simp only [Node.unplugged, h]
    | _ => rfl
  simp only [withoutChannels, hunplug, h]

/-- What is cached does not matter to a rebuilding. -/
theorem rebuildCaches_recache (pins : String → Channel → PinSet) (g : Graph) :
    rebuildCaches { g with
        channels := g.channels.map fun name c ↦ { c with pins := pins name c } } =
      g.rebuildCaches := by
  have hreset : resetConnection (g.channels.map fun name c ↦ { c with pins := pins name c }) =
      resetConnection g.channels := by
    funext v
    cases v with
    | string channel => simp only [resetConnection, OrderedMap.mem_map]
    | _ => rfl
  simp only [rebuildCaches, settleNode, hreset, OrderedMap.map_map]

namespace Tidy

theorem align_eq (h : g.Tidy) (hn : g.nodes.get? name = some n) : n.align = n := by
  have hconnections : n.align.connections = n.connections := by
    apply OrderedMap.ext_get?
    · exact (OrderedMap.keys_map _ _).trans (h.aligned name n hn).symm
    · intro pin
      have hget : n.align.connections.get? pin =
          (n.pins.get? pin).map fun _ ↦ Node.settledConnection (n.connection pin) :=
        OrderedMap.get?_map _ _ _
      rw [hget]
      cases hv : n.connections.get? pin with
      | none =>
        have hpin : pin ∉ n.pins := by
          rw [OrderedMap.mem_iff, ← h.aligned name n hn]
          exact OrderedMap.get?_eq_none_iff.1 hv
        rw [OrderedMap.get?_eq_none_iff.2 hpin]
        rfl
      | some v =>
        have hpin : pin ∈ n.pins := by
          rw [OrderedMap.mem_iff, ← h.aligned name n hn]
          exact OrderedMap.mem_iff_exists.2 ⟨v, hv⟩
        obtain ⟨declared, hdeclared⟩ := OrderedMap.mem_iff_exists.1 hpin
        have hconnection : n.connection pin = v := by
          rw [Node.connection, hv]
          rfl
        rw [hdeclared, Option.map_some, hconnection]
        -- a connection to nothing and one to a channel with a name are settled already
        rcases h.connected name n hn pin v hv with rfl | ⟨channel, -, hne, rfl⟩
        · rfl
        · simp [Node.settledConnection, Json.isBlank, hne]
  exact congrArg (fun cs ↦ { n with connections := cs }) hconnections

theorem settleNode_eq (h : g.Tidy) (hn : g.nodes.get? name = some n) :
    settleNode g.channels n = n := by
  have hreset : (n.connections.map fun _ v ↦ resetConnection g.channels v) = n.connections := by
    refine (OrderedMap.map_congr fun pin v hv ↦ ?_).trans (OrderedMap.map_id _)
    rcases h.connected name n hn pin v hv with rfl | ⟨channel, hmem, -, rfl⟩
    · exact ite_self _
    · exact if_pos hmem
  rw [settleNode, h.align_eq hn, hreset]

theorem nodes_rebuildCaches (h : g.Tidy) : g.rebuildCaches.nodes = g.nodes :=
  (OrderedMap.map_congr fun _ _ hn ↦ h.settleNode_eq hn).trans (OrderedMap.map_id _)

theorem map_align (h : g.Tidy) : (g.nodes.map fun _ n ↦ n.align) = g.nodes :=
  (OrderedMap.map_congr fun _ _ hn ↦ h.align_eq hn).trans (OrderedMap.map_id _)

/-- Where the wiring is tidy, rebuilding caches can only add to the cache of a channel that is named
like no channel. -/
theorem rebuildCaches_eq (h : g.Tidy) :
    g.rebuildCaches = { g with
      channels := g.channels.modify nilName fun c ↦
        { c with pins := wiredPins g.nodes nilName } } := by
  have hchannels : g.rebuildCaches.channels =
      g.channels.modify nilName fun c ↦ { c with pins := wiredPins g.nodes nilName } := by
    rw [rebuildCaches]
    dsimp only
    rw [h.map_align]
    refine OrderedMap.map_congr fun channel c hc ↦ ?_
    split
    · rename_i hnil
      rw [hnil]
    · rename_i hnil
      have hpins : wiredPins g.nodes channel = c.pins := by
        refine PinSet.ext fun pin ↦ mem_wiredPins.trans ?_
        exact ⟨h.complete channel c hc hnil pin, h.names channel c hc pin⟩
      rw [hpins]
  calc g.rebuildCaches
      = { g with nodes := g.rebuildCaches.nodes, channels := g.rebuildCaches.channels } := rfl
    _ = _ := by rw [h.nodes_rebuildCaches, hchannels]

end Tidy

namespace InOrder

/-- Rebuilding caches changes nothing where the wiring is in order. -/
theorem rebuildCaches_eq (h : g.InOrder) : g.rebuildCaches = g := by
  rw [h.tidy.rebuildCaches_eq, OrderedMap.modify_of_not_mem h.unnamed]

/-- Where the wiring is in order, rebuilding takes away the channels with too few pins. -/
theorem refresh_eq (h : g.InOrder) : g.refresh = g.withoutChannels g.thinChannels := by
  rw [Graph.refresh_eq, h.rebuildCaches_eq]

theorem tryRefresh_eq (h : g.InOrder) :
    g.tryRefresh = .ok (g.withoutChannels g.thinChannels) := by
  rw [h.connectionsLookUp.tryRefresh_eq, h.refresh_eq]

/-- When a node was taken out and its pins are still cached, rebuilding gives what it gives without
these pins. -/
theorem tryRefresh_dropped (h : g.InOrder) (name : String) :
    tryRefresh { g with nodes := g.nodes.erase name } =
      .ok ((g.withoutNode name).withoutChannels (g.withoutNode name).thinChannels) := by
  have hwithout := h.withoutNode name
  have hlookup : ConnectionsLookUp { g with nodes := g.nodes.erase name } :=
    hwithout.connectionsLookUp
  have hcaches : rebuildCaches { g with nodes := g.nodes.erase name } = g.withoutNode name := by
    rw [← rebuildCaches_recache fun _ c ↦ c.pins.away name]
    exact hwithout.rebuildCaches_eq
  rw [hlookup.tryRefresh_eq, Graph.refresh_eq, hcaches]

end InOrder

/-! ### Deleting from a graph that was just rebuilt -/

/-- A graph as a rebuilding leaves it, with no channel that is named like no channel: the wiring is
in order, and every channel has enough pins. -/
structure Fresh (g : Graph) : Prop extends InOrder g where
  /-- No channel has too few pins to be kept. -/
  enough : ∀ channel c, g.channels.get? channel = some c → minPins ≤ c.pins.size

/-- Where the wiring is in order, cutting the channels with too few pins leaves those with
enough. -/
theorem InOrder.fresh_withoutChannels (h : g.InOrder)
    (hgone : ∀ channel ∈ g.thinChannels, channel ∈ gone) : (g.withoutChannels gone).Fresh where
  toInOrder := h.withoutChannels gone
  enough := fun _ _ ↦ le_size_of_withoutChannels hgone

theorem fresh_refresh (hnil : nilName ∉ g.refresh.channels) : g.refresh.Fresh where
  toInOrder := inOrder_refresh hnil
  enough := fun _ _ ↦ le_size_of_refresh

/-- The fresh graphs are those that a rebuilding leaves as they are. -/
theorem fresh_iff : g.Fresh ↔ nilName ∉ g.channels ∧ g.tryRefresh = .ok g := by
  constructor
  · intro h
    have hthin : g.thinChannels = [] := by
      refine List.eq_nil_iff_forall_not_mem.2 fun channel hmem ↦ ?_
      obtain ⟨c, hc, hsize⟩ := mem_thinChannels.1 hmem
      exact Nat.not_lt.2 (h.enough channel c hc) hsize
    rw [h.tryRefresh_eq, hthin, withoutChannels_nil]
    exact ⟨h.unnamed, rfl⟩
  · rintro ⟨hnil, hrun⟩
    have hself : g.refresh = g := refresh_eq_of_tryRefresh hrun
    rw [← hself] at hnil ⊢
    exact fresh_refresh hnil

namespace Fresh

/-- Without a node only channels that it named can have too few pins. -/
theorem mem_thinChannels_withoutNode_iff (h : g.Fresh) :
    channel ∈ (g.withoutNode name).thinChannels ↔ (∃ x, g.Names ⟨name, x⟩ channel) ∧
      ∃ c, g.channels.get? channel = some c ∧ (c.pins.away name).size < minPins := by
  simp only [mem_thinChannels, get?_channels_withoutNode, Option.map_eq_some_iff,
    exists_exists_and_eq_and]
  refine ⟨?_, And.right⟩
  rintro ⟨c, hc, hsize⟩
  refine ⟨?_, c, hc, hsize⟩
  by_contra hnone
  have hall : c.pins.away name = c.pins := by
    refine PinSet.ext fun pin ↦ ?_
    rw [PinSet.mem_away, and_iff_left_iff_imp]
    rintro hpin rfl
    exact hnone ⟨pin.pin, (h.cached channel c hc pin).1 hpin⟩
  rw [hall] at hsize
  exact Nat.not_lt.2 (h.enough channel c hc) hsize

/-- Deleting a node with the channels that it leaves with too few pins, deleting it alone and then
rebuilding, and taking it out with all its pins still cached and then rebuilding: the three lead to
the same graph, with the same order of nodes, channels and connections, and a rebuilding leaves that
graph as it is. -/
theorem delete_eq_rebuild (h : g.Fresh) (hname : name ∈ g.nodes) :
    ∃ g', g.tryDeleteNode name true = .ok g' ∧
      (∃ kept, g.tryDeleteNode name false = .ok kept ∧ kept.tryRefresh = .ok g') ∧
      (∃ dropped, g.dropNode name = .ok dropped ∧ dropped.tryRefresh = .ok g') ∧
      g'.Fresh ∧ name ∉ g'.nodes := by
  have hwithout := h.withoutNode name
  obtain ⟨pruned, hpruning, hpruned⟩ := h.deleteNode_eq hname true
  obtain ⟨unpruned, hkeeping, hunpruned⟩ := h.deleteNode_eq hname false
  have hempty : unpruned = [] :=
    List.eq_nil_iff_forall_not_mem.2 fun channel hmem ↦ nomatch ((hunpruned channel).1 hmem).1
  -- what is deleted along with the node is what a rebuilding finds too thin
  have hcut : ∀ channel, channel ∈ pruned ↔ channel ∈ (g.withoutNode name).thinChannels := by
    intro channel
    rw [hpruned, h.mem_thinChannels_withoutNode_iff, and_iff_right rfl]
  have hdropping : g.dropNode name = .ok { g with nodes := g.nodes.erase name } := by
    obtain ⟨n, hn⟩ := OrderedMap.mem_iff_exists.1 hname
    rw [dropNode, node, hn]
    rfl
  refine ⟨(g.withoutNode name).withoutChannels (g.withoutNode name).thinChannels, ?_,
    ⟨g.withoutNode name, ?_, hwithout.tryRefresh_eq⟩,
    ⟨_, hdropping, h.tryRefresh_dropped name⟩, hwithout.fresh_withoutChannels fun _ ↦ id, ?_⟩
  · rw [h.tryDeleteNode_eq hname, hpruning, withoutChannels_congr hcut]
  · rw [h.tryDeleteNode_eq hname, hkeeping, hempty, withoutChannels_nil]
  · rw [← OrderedMap.get?_eq_none_iff, get?_nodes_withoutChannels, get?_nodes_withoutNode,
      if_pos rfl]
    rfl

end Fresh

/-- A transformation from a channel to the same channel, which an unslicer takes from, too, and
a second unslicer behind that one. -/
def looped : Graph where
  nodes := .ofList [
    ("loop", {
      part := .transform [] ""
      connections := .ofList [("input", .string "round"), ("output", .string "round")] }),
    ("first", {
      part := .unslicer
      connections := .ofList [("input", .string "round"), ("output", .string "out")] }),
    ("second", { part := .unslicer, connections := .ofList [("input", .string "out")] })]
  channels := .ofList [("round", {}), ("out", {})]

/-- Both pins of the transformation leave the channel, so the unslicer is disconnected from it. -/
theorem Fresh.delete_eq_rebuild_looped :
    looped.refresh.Fresh ∧ "loop" ∈ looped.refresh.nodes ∧
      looped.refresh.channels.keys = ["round", "out"] ∧
      ∃ g', looped.refresh.tryDeleteNode "loop" true = .ok g' ∧
        (∃ kept, looped.refresh.tryDeleteNode "loop" false = .ok kept ∧
          kept.tryRefresh = .ok g') ∧
        (∃ dropped, looped.refresh.dropNode "loop" = .ok dropped ∧ dropped.tryRefresh = .ok g') ∧
        g'.channels.keys = ["out"] := by
  have hfresh : looped.refresh.Fresh := fresh_refresh (by decide +kernel)
  have hname : "loop" ∈ looped.refresh.nodes := by decide +kernel
  obtain ⟨g', hpruning, hkeeping, hdropping, -⟩ := hfresh.delete_eq_rebuild hname
  have hkeys : (looped.refresh.tryDeleteNode "loop" true).toOption.map
      (fun g' ↦ g'.channels.keys) = some ["out"] := by
    decide +kernel
  rw [hpruning] at hkeys
  exact ⟨hfresh, hname, by decide +kernel, g', hpruning, hkeeping, hdropping,
    Option.some.inj hkeys⟩

end Graph

end ChannelGraph
