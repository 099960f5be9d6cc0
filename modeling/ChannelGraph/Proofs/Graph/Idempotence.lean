import ChannelGraph.Proofs.Graph.Saving
import ChannelGraph.Proofs.Lists

/-!
# Rebuilding twice is rebuilding once

A rebuilding ends by cutting channels and disconnecting their pins, after all caches were computed.
A second one starts from that wiring and finds nothing to do: what a rebuilding leaves is fresh
(`fresh_refresh`), and fresh graphs are those that a rebuilding leaves as they are (`fresh_iff`).

A rebuilding may also be stopped by a connection that cannot be looked up. The nodes before it were
settled then, as were the pins of its own node that come first, and these are the pins that are
cached. Settling them once more changes nothing (`Node.settleUsable_settleUsable`), so a second
rebuilding is stopped by the same connection (`firstContainer?_rebuildUntil`) and leaves the same
state (`rebuildUntil_rebuildUntil`). Both cases are in one equation, `tryRefresh_idempotent`.
-/

namespace ChannelGraph

/-! ### Resetting connections again -/

namespace Graph

/-- A connection that was reset can be looked up. -/
theorem isContainer_resetConnection (channels : OrderedMap String Channel) (v : Json) :
    (resetConnection channels v).isContainer = false := by
  rcases resetConnection_cases channels v with ⟨channel, -, rfl, heq⟩ | ⟨-, heq⟩
  · rw [heq]
    rfl
  · rw [heq]
    rfl

/-- A connection that was reset names a channel that is there, or none. -/
theorem resetConnection_resetConnection (channels : OrderedMap String Channel) (v : Json) :
    resetConnection channels (resetConnection channels v) = resetConnection channels v := by
  rcases resetConnection_cases channels v with ⟨channel, -, -, heq⟩ | ⟨-, heq⟩
  · rw [heq, heq]
  · rw [heq]
    exact ite_self _

/-- Only the names of the channels matter. -/
theorem resetConnection_congr {channels channels' : OrderedMap String Channel}
    (hkeys : channels'.keys = channels.keys) :
    resetConnection channels' = resetConnection channels := by
  funext v
  cases v with
  | string channel => simp only [resetConnection, OrderedMap.mem_iff, hkeys]
  | _ => rfl

end Graph

/-! ### Pins in front of a connection that cannot be looked up -/

namespace Node

open ChannelGraph.Graph (resetConnection resetConnection_cases)

variable {n : Node} {pin channel : String} {channels channels' : OrderedMap String Channel}

/-- The connection of a pin once it is settled: aligned, and reset where it names no channel and its
pin is in front of the first connection that cannot be looked up. -/
def usableConnection (channels : OrderedMap String Channel) (n : Node) (pin : String) : Json :=
  if pin ∈ n.usablePins then resetConnection channels (settledConnection (n.connection pin))
  else settledConnection (n.connection pin)

/-- The connections afterwards are those of the pins, some of them reset. -/
theorem connections_settleUsable (channels : OrderedMap String Channel) (n : Node) :
    (n.settleUsable channels).connections =
      n.pins.map fun pin _ ↦ n.usableConnection channels pin := by
  rw [settleUsable]
  dsimp only
  rw [align, OrderedMap.map_map]
  rfl

/-- The usable pins are those in front of the first one whose connection holds other values. -/
theorem usablePins_eq (n : Node) : n.usablePins = n.pins.keys.takeWhile fun pin ↦
    !(settledConnection (n.connection pin)).isContainer := by
  have hentries : n.align.connections.entries =
      n.pins.keys.map fun pin ↦ (pin, settledConnection (n.connection pin)) := by
    rw [OrderedMap.keys, List.map_map]
    rfl
  rw [usablePins, hentries, List.takeWhile_map, List.map_map]
  exact List.map_id' _

/-- A usable pin is declared. -/
theorem mem_pins_of_mem_usablePins (h : pin ∈ n.usablePins) : pin ∈ n.pins := by
  rw [usablePins_eq] at h
  exact (List.takeWhile_sublist _).mem h

/-- The connection of a usable pin can be looked up. -/
theorem isContainer_of_mem_usablePins (h : pin ∈ n.usablePins) :
    (settledConnection (n.connection pin)).isContainer = false := by
  rw [usablePins_eq] at h
  simpa using List.mem_takeWhile_imp h

/-- Settling a connection again changes nothing. -/
theorem settledConnection_usableConnection (channels : OrderedMap String Channel) (n : Node)
    (pin : String) :
    settledConnection (n.usableConnection channels pin) = n.usableConnection channels pin := by
  unfold usableConnection
  split
  · rcases resetConnection_cases channels (settledConnection (n.connection pin)) with
      ⟨channel, -, -, heq⟩ | ⟨-, heq⟩
    · rw [heq, settledConnection_settledConnection]
    · rw [heq]
      rfl
  · exact settledConnection_settledConnection _

/-- A connection is not taken for another one after it was written. -/
theorem settledConnection_connection_settleUsable (hpin : pin ∈ n.pins) :
    settledConnection ((n.settleUsable channels).connection pin) =
      n.usableConnection channels pin := by
  obtain ⟨declared, hdeclared⟩ := OrderedMap.mem_iff_exists.1 hpin
  rw [connection, connections_settleUsable, OrderedMap.get?_map, hdeclared]
  exact n.settledConnection_usableConnection channels pin

/-- Settling touches no connection that cannot be looked up, and makes none. -/
theorem isContainer_usableConnection (channels : OrderedMap String Channel) (n : Node)
    (pin : String) : (n.usableConnection channels pin).isContainer =
      (settledConnection (n.connection pin)).isContainer := by
  unfold usableConnection
  split
  · rename_i husable
    rw [Graph.isContainer_resetConnection, isContainer_of_mem_usablePins husable]
  · rfl

/-- What cannot be looked up stays as it is. -/
theorem usableConnection_of_isContainer
    (h : (settledConnection (n.connection pin)).isContainer = true) :
    n.usableConnection channels pin = settledConnection (n.connection pin) := by
  refine if_neg fun husable ↦ ?_
  rw [isContainer_of_mem_usablePins husable] at h
  cases h

/-- After the usable connections of a node are settled the same pins are usable, since the
connection that ends them is not touched. -/
theorem usablePins_settleUsable (channels : OrderedMap String Channel) (n : Node) :
    (n.settleUsable channels).usablePins = n.usablePins := by
  rw [usablePins_eq, usablePins_eq]
  refine takeWhile_congr fun pin hpin ↦ ?_
  have hdeclared : pin ∈ n.pins := hpin
  rw [settledConnection_connection_settleUsable hdeclared, isContainer_usableConnection]

/-- Settling a node a second time changes nothing. -/
theorem settleUsable_settleUsable (hkeys : channels'.keys = channels.keys) (n : Node) :
    (n.settleUsable channels).settleUsable channels' = n.settleUsable channels := by
  have hconnections : ((n.settleUsable channels).settleUsable channels').connections =
      (n.settleUsable channels).connections := by
    rw [connections_settleUsable, connections_settleUsable]
    refine OrderedMap.map_congr fun pin declared hpin ↦ ?_
    have hmem : pin ∈ n.pins := OrderedMap.mem_iff_exists.2 ⟨declared, hpin⟩
    rw [usableConnection, usablePins_settleUsable, Graph.resetConnection_congr hkeys,
      settledConnection_connection_settleUsable hmem]
    split
    · rename_i husable
      rw [usableConnection, if_pos husable]
      exact Graph.resetConnection_resetConnection channels _
    · rfl
  exact congrArg (fun cs ↦ { n with connections := cs }) hconnections

/-- The first connection that cannot be looked up is the same after settling. -/
theorem find?_isContainer_settleUsable (channels : OrderedMap String Channel) (n : Node) :
    ((n.settleUsable channels).pins.keys.map fun pin ↦
        settledConnection ((n.settleUsable channels).connection pin)).find? Json.isContainer =
      (n.pins.keys.map fun pin ↦ settledConnection (n.connection pin)).find? Json.isContainer := by
  have hvalues : ((n.settleUsable channels).pins.keys.map fun pin ↦
      settledConnection ((n.settleUsable channels).connection pin)) =
        n.pins.keys.map (n.usableConnection channels) :=
    List.map_congr_left fun pin hpin ↦ settledConnection_connection_settleUsable hpin
  rw [hvalues, List.find?_map, List.find?_map]
  have hsame : n.pins.keys.find? (Json.isContainer ∘ n.usableConnection channels) =
      n.pins.keys.find? (Json.isContainer ∘ fun pin ↦ settledConnection (n.connection pin)) :=
    List.find?_congr fun pin _ ↦ isContainer_usableConnection channels n pin
  rw [hsame]
  refine Option.map_congr fun pin hpin ↦ usableConnection_of_isContainer ?_
  have hcontainer := List.find?_some hpin
  exact hcontainer

end Node

/-! ### A rebuilding that is stopped -/

namespace Graph

variable {g : Graph} {name channel : String} {pin : PinRef}

/-- The nodes up to one of them, in their order. -/
def nodesUntil (g : Graph) (name : String) : List String :=
  g.nodes.keys.takeWhile (· ≠ name) ++ [name]

/-- The nodes up to the one that stops the rebuilding are changed, and the others are not. -/
theorem nodes_rebuildUntil (g : Graph) (name : String) : (g.rebuildUntil name).nodes =
    g.nodes.map fun key n ↦ if key ∈ g.nodesUntil name then n.settleUsable g.channels else n :=
  rfl

theorem keys_channels_rebuildUntil (g : Graph) (name : String) :
    (g.rebuildUntil name).channels.keys = g.channels.keys :=
  OrderedMap.keys_map _ _

/-- A rebuilding that is stopped keeps the nodes and their order. -/
theorem nodesUntil_rebuildUntil (g : Graph) (name : String) :
    (g.rebuildUntil name).nodesUntil name = g.nodesUntil name := by
  have hkeys : (g.rebuildUntil name).nodes.keys = g.nodes.keys := OrderedMap.keys_map _ _
  rw [nodesUntil, hkeys, nodesUntil]

/-- The pins that are cached by a rebuilding that is stopped in a node. -/
def wiredUntil (g : Graph) (name channel : String) : PinSet :=
  wiredPins ((g.nodes.filter fun key _ ↦ key ∈ g.nodesUntil name).map fun _ n ↦ n.onlyUsable)
    channel

/-- The caches hold the pins that were reached. -/
theorem channels_rebuildUntil (g : Graph) (name : String) : (g.rebuildUntil name).channels =
    g.channels.map fun channel c ↦ { c with pins := g.wiredUntil name channel } :=
  rfl

/-- A pin was reached if its node was, and if its connection is looked up before one that cannot
be. -/
theorem mem_wiredUntil : pin ∈ g.wiredUntil name channel ↔ pin.node ∈ g.nodesUntil name ∧
    ∃ n, g.nodes.get? pin.node = some n ∧ pin.pin ∈ n.usablePins ∧
      Node.settledConnection (n.connection pin.pin) = .string channel := by
  rw [wiredUntil, mem_wiredPins, OrderedMap.get?_map, OrderedMap.get?_filter]
  cases g.nodes.get? pin.node with
  | none => simp
  | some n =>
    by_cases hreached : pin.node ∈ g.nodesUntil name
    · have hentry : n.onlyUsable.connections.get? pin.pin = some (.string channel) ↔
          pin.pin ∈ n.usablePins ∧
            Node.settledConnection (n.connection pin.pin) = .string channel := by
        show ((n.align.connections.filter _).get? pin.pin) = _ ↔ _
        rw [OrderedMap.get?_filter, Node.align, OrderedMap.get?_map, Option.filter_eq_some_iff,
          Option.map_eq_some_iff, decide_eq_true_eq, and_comm]
        refine and_congr_right fun husable ↦ ?_
        obtain ⟨declared, hdeclared⟩ :=
          OrderedMap.mem_iff_exists.1 (Node.mem_pins_of_mem_usablePins husable)
        simp [hdeclared]
      simpa [hreached] using hentry
    · simp [hreached]

/-- The same pins are cached when the rebuilding is stopped a second time. -/
theorem wiredUntil_rebuildUntil (hchannel : channel ∈ g.channels) (hnil : channel ≠ nilName) :
    (g.rebuildUntil name).wiredUntil name channel = g.wiredUntil name channel := by
  refine PinSet.ext fun pin ↦ ?_
  rw [mem_wiredUntil, mem_wiredUntil, nodesUntil_rebuildUntil, nodes_rebuildUntil,
    OrderedMap.get?_map]
  refine and_congr_right fun hreached ↦ ?_
  cases g.nodes.get? pin.node with
  | none => simp
  | some n =>
    simp only [Option.map_some, if_pos hreached, Option.some.injEq, exists_eq_left',
      Node.usablePins_settleUsable]
    refine and_congr_right fun husable ↦ ?_
    rw [Node.settledConnection_connection_settleUsable (Node.mem_pins_of_mem_usablePins husable),
      Node.usableConnection, if_pos husable, resetConnection_eq_string_iff hnil,
      and_iff_right hchannel]

/-- A second rebuilding that is stopped at the same node changes nothing more. -/
theorem rebuildUntil_rebuildUntil (hnil : nilName ∉ g.channels) (name : String) :
    (g.rebuildUntil name).rebuildUntil name = g.rebuildUntil name := by
  have hnodes : ((g.rebuildUntil name).rebuildUntil name).nodes = (g.rebuildUntil name).nodes := by
    rw [nodes_rebuildUntil, nodesUntil_rebuildUntil, nodes_rebuildUntil, OrderedMap.map_map]
    refine OrderedMap.map_congr fun key n _ ↦ ?_
    split
    · exact Node.settleUsable_settleUsable (keys_channels_rebuildUntil g name) n
    · rfl
  have hchannels : ((g.rebuildUntil name).rebuildUntil name).channels =
      (g.rebuildUntil name).channels := by
    rw [channels_rebuildUntil, channels_rebuildUntil, OrderedMap.map_map]
    refine OrderedMap.map_congr fun channel c hc ↦ ?_
    have hchannel : channel ∈ g.channels := OrderedMap.mem_iff_exists.2 ⟨c, hc⟩
    rw [wiredUntil_rebuildUntil hchannel fun heq ↦ hnil (heq ▸ hchannel)]
  calc (g.rebuildUntil name).rebuildUntil name
      = { g with
          nodes := ((g.rebuildUntil name).rebuildUntil name).nodes
          channels := ((g.rebuildUntil name).rebuildUntil name).channels } := rfl
    _ = g.rebuildUntil name := by rw [hnodes, hchannels]; rfl

/-- The first connection that cannot be looked up is still there after it stopped a rebuilding. -/
theorem firstContainer?_rebuildUntil (g : Graph) (name : String) :
    ((g.rebuildUntil name).firstContainer? fun n pin ↦ Node.settledConnection (n.connection pin)) =
      g.firstContainer? fun n pin ↦ Node.settledConnection (n.connection pin) := by
  show ((g.nodes.entries.map _).findSome? _) = _
  rw [List.findSome?_map]
  refine congrArg (List.findSome? · g.nodes.entries) (funext fun entry ↦ ?_)
  dsimp only [Function.comp]
  split
  · rw [Node.find?_isContainer_settleUsable]
  · rfl

/-! ### Rebuilding twice -/

/-- A second rebuilding does what the first one did. Where the first one succeeds the second one
succeeds and leaves the graph as it is, with the wiring in order and enough pins at every channel.
Where the first one is stopped by a connection the second one is stopped by it, too, and in the same
state. -/
theorem tryRefresh_idempotent (hnil : nilName ∉ g.channels) :
    (stateAfter g.tryRefresh).tryRefresh = g.tryRefresh ∧
      (∀ g', g.tryRefresh = .ok g' → g'.Fresh) ∧
      (g.ConnectionsLookUp → ∃ g', g.tryRefresh = .ok g' ∧ g'.tryRefresh = .ok g') := by
  have hfresh : g.refresh.Fresh := fresh_refresh fun hmem ↦ hnil (mem_channels_refresh.1 hmem).1
  have hagain : g.refresh.tryRefresh = .ok g.refresh := (fresh_iff.1 hfresh).2
  refine ⟨?_, fun g' hrun ↦ ?_, fun hlookup ↦ ⟨g.refresh, hlookup.tryRefresh_eq, hagain⟩⟩
  · cases hfirst : g.firstContainer? fun n pin ↦ Node.settledConnection (n.connection pin) with
    | none =>
      have hrun : g.tryRefresh = .ok g.refresh := by rw [tryRefresh, hfirst]
      rw [hrun]
      exact hagain
    -- what stopped the first run is not touched by it, so it stops the second one
    | some bad =>
      obtain ⟨name, v⟩ := bad
      have hrun : g.tryRefresh = .error ⟨.badConnection v, g.rebuildUntil name⟩ := by
        rw [tryRefresh, hfirst]
      rw [hrun]
      show (g.rebuildUntil name).tryRefresh = _
      rw [tryRefresh, firstContainer?_rebuildUntil, hfirst]
      dsimp only
      rw [rebuildUntil_rebuildUntil hnil]
  · rw [← refresh_eq_of_tryRefresh hrun]
    exact hfresh

/-- The first rebuilding of `neglected` takes a channel away and disconnects its pin; the second one
finds nothing to do. -/
theorem tryRefresh_idempotent_neglected :
    nilName ∉ neglected.channels ∧ neglected.ConnectionsLookUp ∧
      ∃ g', neglected.tryRefresh = .ok g' ∧ g'.tryRefresh = .ok g' ∧ g'.Fresh ∧
        g'.channels.keys = ["shared"] := by
  have hnil : nilName ∉ neglected.channels := by decide +kernel
  have hlookup : neglected.ConnectionsLookUp := by decide +kernel
  obtain ⟨-, hfresh, hagain⟩ := tryRefresh_idempotent hnil
  obtain ⟨g', hrun, hrun'⟩ := hagain hlookup
  have hkeys : neglected.refresh.channels.keys = ["shared"] := by decide +kernel
  rw [refresh_eq_of_tryRefresh hrun] at hkeys
  exact ⟨hnil, hlookup, g', hrun, hrun', hfresh g' hrun, hkeys⟩

end Graph

end ChannelGraph
