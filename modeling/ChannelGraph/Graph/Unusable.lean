import ChannelGraph.Graph.Inference

/-!
# Connections that cannot be looked up

A connection is kept as it was given. Where it is looked up among the channels and is an array or
an object, the operation stops, and what it changed before that stays. Without such connections
the operations here are those for graphs whose connections are names
(`tryDeleteNode_of_forall`, `tryInfer_of_forall`).
-/

namespace ChannelGraph

namespace Node

/-- The pins whose connections, once they are aligned, are looked up before one that cannot be. -/
def usablePins (n : Node) : List String :=
  (n.align.connections.entries.takeWhile fun c ↦ !c.2.isContainer).map Prod.fst

/-- A node with its connections aligned, of which those of the usable pins are reset where they
name no channel. -/
def settleUsable (channels : OrderedMap String Channel) (n : Node) : Node :=
  let aligned := n.align
  let settle (pin : String) (v : Json) : Json :=
    if pin ∈ n.usablePins then Graph.resetConnection channels v else v
  { aligned with connections := aligned.connections.map settle }

/-- A node with its connections aligned, and of these only those of its usable pins. -/
def onlyUsable (n : Node) : Node :=
  let aligned := n.align
  { aligned with connections := aligned.connections.filter fun pin _ ↦ pin ∈ n.usablePins }

end Node

namespace Graph

/-- Delete a node as long as its connections can be looked up. -/
def tryDeleteNode (g : Graph) (name : String) (prune : Bool) :
    Except (Interrupted GraphFault Graph) Graph :=
  let connections := ((g.nodes.get? name).map fun n ↦ n.connections.entries).getD []
  match connections.find? (·.2.isContainer) with
  | none => g.deleteNode name prune
  | some bad =>
    let before := connections.takeWhile fun c ↦ !c.2.isContainer
    .error ⟨.badConnection bad.2, (before.foldl (detach name) (g, [])).1⟩

/-- Deleting a node whose connections are no containers does not stop at one. -/
theorem tryDeleteNode_of_forall {g : Graph} {name : String} {n : Node}
    (hn : g.nodes.get? name = some n)
    (h : ∀ c ∈ n.connections.entries, c.2.isContainer = false) (prune : Bool) :
    g.tryDeleteNode name prune = g.deleteNode name prune := by
  have hfind : n.connections.entries.find? (·.2.isContainer) = none :=
    List.find?_eq_none.2 fun c hc ↦ by simp [h c hc]
  simp [tryDeleteNode, hn, hfind]

/-- The first connection of a declared pin that holds other values, with its node, where a
function says what counts as the connection. -/
def firstContainer? (g : Graph) (read : Node → String → Json) : Option (String × Json) :=
  g.nodes.entries.findSome? fun e ↦
    ((e.2.pins.keys.map (read e.2)).find? Json.isContainer).map fun v ↦ (e.1, v)

/-- Rebuild the caches from the connections up to the first one of a node that cannot be looked
up. -/
def rebuildUntil (g : Graph) (name : String) : Graph :=
  let reached := (g.nodes.keys.takeWhile (· ≠ name)) ++ [name]
  let nodes := g.nodes.map fun key n ↦
    if key ∈ reached then n.settleUsable g.channels else n
  let looked := (g.nodes.filter fun key _ ↦ key ∈ reached).map fun _ n ↦ n.onlyUsable
  { g with
    nodes := nodes
    channels := g.channels.map fun channel c ↦ { c with pins := wiredPins looked channel } }

/-- Rebuild the caches from the connections as long as these can be looked up, and then remove the
channels with fewer than two pins. -/
def tryRefresh (g : Graph) : Except (Interrupted GraphFault Graph) Graph :=
  match g.firstContainer? fun n pin ↦ Node.settledConnection (n.connection pin) with
  | none => .ok g.refresh
  | some (name, v) => .error ⟨.badConnection v, g.rebuildUntil name⟩

/-- Infer all types if the connections of all pins can be looked up. -/
def tryInfer (g : Graph) (default : TypeExpr) : Except (Interrupted InferenceFault Graph) Graph :=
  match g.firstContainer? Node.connection with
  | none => g.infer default
  | some (_, v) => .error ⟨.badConnection v, g.clearTypes⟩

/-- Without containers among the connections of pins, types are inferred as for names. -/
theorem tryInfer_of_forall {g : Graph}
    (h : ∀ e ∈ g.nodes.entries, ∀ pin ∈ e.2.pins.keys, (e.2.connection pin).isContainer = false)
    (default : TypeExpr) : g.tryInfer default = g.infer default := by
  have hnone : g.firstContainer? Node.connection = none := by
    refine List.findSome?_eq_none_iff.2 fun e he ↦ ?_
    rw [Option.map_eq_none_iff, List.find?_eq_none]
    intro v hv
    obtain ⟨pin, hpin, rfl⟩ := List.mem_map.1 hv
    simp [h e he pin hpin]
  rw [tryInfer, hnone]

end Graph

end ChannelGraph
