import ChannelGraph.Graph.Basic
import ChannelGraph.Interrupted

/-!
# Keeping the wiring in order

Rebuilding (`Graph.refresh`) makes the caches of all channels agree with the connections: the
connections of every node are aligned with its part, those that name no channel are reset,
every channel caches exactly the pins that name it, and channels with fewer than two pins are
removed.

Deleting works on the caches: a channel is deleted after its cached pins were disconnected
(`Graph.deleteChannel`), a node after its pins were taken out of the caches of the channels
that it names, which may leave some of them with too few pins (`Graph.deleteNode`). A cached
pin of a missing node stops a deletion.
-/

namespace ChannelGraph

namespace Graph

/-! ### Deleting channels -/

/-- Disconnect a pin, if its node exists. -/
def disconnect (g : Graph) (p : PinRef) : Graph :=
  { g with nodes := g.nodes.modify p.node fun n ↦ n.setConnection p.pin noConnection }

/-- The cached pins of a channel, in order. -/
def cachedPins (g : Graph) (channel : String) : List PinRef :=
  match g.channels.get? channel with
  | some c => c.pins.toList
  | none => []

/-- Disconnect the cached pins of a channel and remove the channel. -/
def cutChannel (g : Graph) (channel : String) : Graph :=
  let g' := (g.cachedPins channel).foldl disconnect g
  { g' with channels := g'.channels.erase channel }

/-- Delete a channel. If it caches a pin of a missing node, only the pins before that one are
disconnected. -/
def deleteChannel (g : Graph) (channel : String) :
    Except (Interrupted GraphFault Graph) Graph :=
  if channel ∉ g.channels then .error ⟨.unknownChannel channel, g⟩
  else
    match (g.cachedPins channel).find? (·.node ∉ g.nodes) with
    | none => .ok (g.cutChannel channel)
    | some ghost =>
      let before := (g.cachedPins channel).takeWhile (·.node ∈ g.nodes)
      .error ⟨.ghostPin ghost.node channel, before.foldl disconnect g⟩

/-! ### Deleting nodes -/

/-- The least number of pins that a channel is kept for. -/
def minPins : Nat :=
  2

/-- Take the pin of a connection out of the cache of the channel that it names. The channels
that are left with too few pins are collected in the order in which that happens. -/
def detach (node : String) (state : Graph × List String) (connection : String × Json) :
    Graph × List String :=
  match connection.2 with
  | .string channel =>
    if channel = nilName then state
    else
      match state.1.channels.get? channel with
      | none => state
      | some c =>
        let c' : Channel := { c with pins := c.pins.erase ⟨node, connection.1⟩ }
        let g' : Graph := { state.1 with channels := state.1.channels.insert channel c' }
        if c'.pins.size < minPins ∧ channel ∉ state.2 then (g', state.2 ++ [channel])
        else (g', state.2)
  | _ => state

/-- Delete a node, and on request the channels that it leaves with fewer than two pins. -/
def deleteNode (g : Graph) (name : String) (prune : Bool) :
    Except (Interrupted GraphFault Graph) Graph :=
  match g.nodes.get? name with
  | none => .error ⟨.unknownNode name, g⟩
  | some n =>
    let (g', thin) := n.connections.entries.foldl (detach name) (g, [])
    let g' := { g' with nodes := g'.nodes.erase name }
    if prune then thin.foldlM deleteChannel g' else .ok g'

/-! ### Rebuilding -/

/-- A connection, or the one to nothing where it names no channel. -/
def resetConnection (channels : OrderedMap String Channel) : Json → Json
  | .string c => if c ∈ channels then .string c else noConnection
  | _ => noConnection

/-- A node with its connections aligned and those that name no channel reset. -/
def settleNode (channels : OrderedMap String Channel) (n : Node) : Node :=
  let aligned := n.align
  { aligned with connections := aligned.connections.map fun _ v ↦ resetConnection channels v }

/-- The pins whose connection names a channel. -/
def wiredPins (nodes : OrderedMap String Node) (channel : String) : PinSet :=
  (nodes.entries.flatMap fun e ↦
    (e.2.connections.entries.filter (·.2 = .string channel)).map fun c ↦
      PinRef.mk e.1 c.1).foldl PinSet.insert ∅

/-- The names of the channels that cache fewer than two pins. -/
def thinChannels (g : Graph) : List String :=
  (g.channels.filter fun _ c ↦ c.pins.size < minPins).keys

/-- Rebuild the caches from the connections, before channels are removed. A connection that is
reset puts its pin in no cache, not even in that of a channel named like no channel. -/
def rebuildCaches (g : Graph) : Graph :=
  let aligned := g.nodes.map fun _ n ↦ n.align
  { g with
    nodes := g.nodes.map fun _ n ↦ settleNode g.channels n
    channels := g.channels.map fun name c ↦ { c with pins := wiredPins aligned name } }

/-- Rebuild the caches from the connections and remove the channels with fewer than two
pins. The rebuilt caches hold pins of nodes that are there, so that none of them has to be looked
for before its channel is cut. -/
def refresh (g : Graph) : Graph :=
  let g' := g.rebuildCaches
  g'.thinChannels.foldl cutChannel g'

end Graph

end ChannelGraph
