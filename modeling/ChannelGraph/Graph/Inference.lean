import ChannelGraph.Bindings.Unify
import ChannelGraph.Graph.Wiring

/-!
# Inference of channel and pin types

Every connected pin starts from its declared type, with the parameters in the scope of its
node. Pins that share a channel must have the same type: the channels are visited one after
the other, and on a visit the type of the channel is unified with the type of each of its
cached pins, in order. The first pin ever seen gives a channel its type. Whatever a visit
teaches about a node's parameters is written into the types of the node's pins at once, and
the channels of the pins that changed are visited again.

The visits are counted against `Pass.visitBound`: every channel is visited once for itself and
once after it got its type, and a pin changes at most once for each parameter there is.

When nothing is left to visit, all types are instantiated, the parameters that nothing
constrains become the default type, and the results are written into the graph. A pass that
fails leaves a graph without inferred types.
-/

namespace ChannelGraph

/-- Why an inference failed. -/
inductive InferenceFault where
  /-- A channel caches a pin that is not connected to a channel. -/
  | unwiredPin (channel : String) (pin : PinRef)
  /-- The type of a pin is not that of its channel, as the message says. -/
  | incompatible (channel : String) (pin : PinRef) (conflict : Conflict) (message : String)
  /-- The run stopped for another reason. -/
  | stopped (fault : UnifyFault)
  /-- A connection cannot be looked up. -/
  | badConnection (given : Json)
deriving DecidableEq

namespace InferenceFault

/-- The summary of an incompatibility. -/
def summary : String :=
  "channel connected to incompatible types"

/-- What is said about a fault. -/
def message : InferenceFault → String
  | unwiredPin channel pin =>
    s!"Channel '{channel}' lists pin {pin.text}, which is not wired to it; " ++
      "refresh the pin caches first"
  | incompatible channel pin _ message =>
    s!"{summary}: channel '{channel}' at pin {pin.text}: {message}"
  | stopped fault => fault.message
  | badConnection given => (GraphFault.badConnection given).message

/-- The fault of a unification between a channel and a pin. -/
def ofUnify (channel : String) (pin : PinRef) : UnifyFault → InferenceFault
  | .conflict c message => incompatible channel pin c message
  | fault => stopped fault

end InferenceFault

/-- The type of parameters that nothing constrains. -/
def defaultType : TypeExpr :=
  .name "interface\x7b\x7d"

/-- The state of an inference. -/
structure Pass where
  /-- The current types of the connected pins, by node and pin. -/
  pinTypes : OrderedMap String (OrderedMap String TypeExpr)
  /-- The current types of the channels that have been seen. -/
  channelTypes : OrderedMap String (Option TypeExpr)
  /-- What is known about the parameters. -/
  bindings : Bindings := ∅
  /-- The channels still to visit, each once. -/
  queue : List String

namespace Pass

/-- The connected pins of a node with their declared types in the scope of the node. -/
def declaredTypes (channels : OrderedMap String Channel) (name : String) (n : Node) :
    OrderedMap String TypeExpr :=
  (n.pins.filter fun pin _ ↦ (n.connectedChannel pin).any (· ∈ channels)).map fun _ pin ↦
    pin.type.inScope name

/-- The state in which an inference starts. -/
def start (g : Graph) : Pass where
  pinTypes := g.nodes.map (declaredTypes g.channels)
  channelTypes := g.channels.map fun _ _ ↦ none
  queue := g.channels.keys

/-- Put a channel into the queue, unless it is there. -/
def push (p : Pass) (channel : String) : Pass :=
  if channel ∈ p.queue then p else { p with queue := p.queue ++ [channel] }

/-- The current type of a pin. -/
def pinType? (p : Pass) (pin : PinRef) : Option TypeExpr :=
  (p.pinTypes.get? pin.node).bind fun types ↦ types.get? pin.pin

/-- Write the current type of a pin. -/
def setPinType (p : Pass) (pin : PinRef) (e : TypeExpr) : Pass :=
  { p with pinTypes := p.pinTypes.modify pin.node fun types ↦ types.insert pin.pin e }

/-- Write the current type of a channel. -/
def setChannelType (p : Pass) (channel : String) (e : TypeExpr) : Pass :=
  { p with channelTypes := p.channelTypes.insert channel (some e) }

/-- Instantiate the type of one pin of a node; if that changes it, its channel is to be
visited. -/
def refinePin (g : Graph) (node : String) (p : Pass) (entry : String × TypeExpr) :
    Except InferenceFault Pass :=
  match p.bindings.refine? entry.2 with
  | .error f => .error (.stopped (.ofApply f))
  | .ok none => .ok p
  | .ok (some e) =>
    let p' := p.setPinType ⟨node, entry.1⟩ e
    match (g.nodes.get? node).bind fun n ↦ n.connectedChannel entry.1 with
    | none => .ok p'
    | some channel => .ok (p'.push channel)

/-- Instantiate the types of the pins of a node. -/
def refineNode (g : Graph) (p : Pass) (node : String) : Except InferenceFault Pass :=
  ((p.pinTypes.get? node).getD ∅).entries.foldlM (refinePin g node) p

/-- Make the type of a channel and that of one of its pins agree. -/
def visitPin (g : Graph) (channel : String) (p : Pass) (pin : PinRef) :
    Except InferenceFault Pass :=
  match p.pinType? pin with
  | none => .error (.unwiredPin channel pin)
  | some pinType =>
    match (p.channelTypes.get? channel).join with
    | none => .ok ((p.setChannelType channel pinType).push channel)
    | some channelType =>
      match p.bindings.unify channelType pinType with
      | .error i => .error (.ofUnify channel pin i.cause)
      | .ok bindings =>
        let p' := { p with bindings := bindings }
        match bindings.refine? channelType with
        | .error f => .error (.stopped (.ofApply f))
        | .ok refined =>
          refineNode g (p'.setChannelType channel (refined.getD channelType)) pin.node

/-- Visit a channel: make its type and those of its cached pins agree, in order. -/
def visit (g : Graph) (p : Pass) (channel : String) : Except InferenceFault Pass :=
  (g.cachedPins channel).foldlM (visitPin g channel) p

/-- Visit channels in the order of the queue, at most a number of times. -/
def run (g : Graph) : Nat → Pass → Except InferenceFault Pass
  | 0, p => .ok p
  | visits + 1, p =>
    match p.queue with
    | [] => .ok p
    | channel :: queue => (visit g { p with queue := queue } channel).bind (run g visits)

/-- The number of connected pins. -/
def pinCount (p : Pass) : Nat :=
  (p.pinTypes.values.flatMap OrderedMap.keys).length

/-- The different parameters in the types of the connected pins. -/
def params (p : Pass) : List TypeParam :=
  (p.pinTypes.values.flatMap fun types ↦ types.values.flatMap TypeExpr.params).eraseDups

/-- How many visits an inference from this state takes at most. -/
def visitBound (p : Pass) : Nat :=
  2 * p.channelTypes.size + p.pinCount * p.params.length

/-! ### Writing the results into the graph -/

/-- The final form of a type: instantiated, with the default for parameters left over. -/
def settle (p : Pass) (default e : TypeExpr) : Except UnifyFault TypeExpr :=
  match p.bindings.apply e with
  | .error f => .error (.ofApply f)
  | .ok e' => .ok (e'.groundWith default)

/-- The final form of several types by key. -/
def settleAll (p : Pass) (default : TypeExpr) (types : OrderedMap String TypeExpr) :
    Except UnifyFault (OrderedMap String TypeExpr) :=
  types.entries.foldlM
    (fun m entry ↦ (p.settle default entry.2).map fun e ↦ m.insert entry.1 e) ∅

/-- The parameters in the declared types of all pins of a node, each once, in order of first
appearance. -/
def declaredParams (name : String) (n : Node) : List TypeParam :=
  (n.pins.values.flatMap fun pin ↦ (pin.type.inScope name).params).eraseDups

/-- The text of the final form of a parameter. -/
def paramText (p : Pass) (default : TypeExpr) (param : TypeParam) : Except UnifyFault String :=
  match p.settle default (.param param) with
  | .error f => .error f
  | .ok e => e.written.mapError .malformed

/-- The texts of the type parameters of a node. -/
def paramTexts (p : Pass) (default : TypeExpr) (name : String) (n : Node) :
    Except UnifyFault (OrderedMap String String) :=
  (declaredParams name n).foldlM
    (fun m param ↦ (p.paramText default param).map fun t ↦ m.insert param.ident t) ∅

/-- Write the final type of a channel into the graph. -/
def commitChannel (p : Pass) (default : TypeExpr) (g : Graph)
    (entry : String × Option TypeExpr) : Except (Interrupted InferenceFault Graph) Graph :=
  match p.settle default (entry.2.getD default) with
  | .error f => .error ⟨.stopped f, g⟩
  | .ok e => .ok { g with channels := g.channels.modify entry.1 fun c ↦ { c with type := some e } }

/-- Write the final types of a node into the graph. -/
def commitNode (p : Pass) (default : TypeExpr) (g : Graph) (entry : String × Node) :
    Except (Interrupted InferenceFault Graph) Graph :=
  match p.settleAll default ((p.pinTypes.get? entry.1).getD ∅) with
  | .error f => .error ⟨.stopped f, g⟩
  | .ok types =>
    let g' := { g with nodes := g.nodes.modify entry.1 fun n ↦ { n with pinTypes := types } }
    match p.paramTexts default entry.1 entry.2 with
    | .error f => .error ⟨.stopped f, g'⟩
    | .ok texts =>
      .ok { g' with nodes := g'.nodes.modify entry.1 fun n ↦ { n with typeParams := texts } }

/-- Write all final types into the graph, channels first. -/
def commit (p : Pass) (default : TypeExpr) (g : Graph) :
    Except (Interrupted InferenceFault Graph) Graph :=
  match p.channelTypes.entries.foldlM (commitChannel p default) g with
  | .error i => .error i
  | .ok g' => g.nodes.entries.foldlM (commitNode p default) g'

end Pass

namespace Graph

/-- Forget all inferred types. -/
def clearTypes (g : Graph) : Graph :=
  { g with
    channels := g.channels.map fun _ c ↦ { c with type := none }
    nodes := g.nodes.map fun _ n ↦ n.clearTypes }

/-- Infer the types of all channels and connected pins, with a default type for parameters that
nothing constrains. -/
def infer (g : Graph) (default : TypeExpr) : Except (Interrupted InferenceFault Graph) Graph :=
  let cleared := g.clearTypes
  let first := Pass.start cleared
  match Pass.run cleared first.visitBound first with
  | .error f => .error ⟨f, cleared⟩
  | .ok last => last.commit default cleared

end Graph

end ChannelGraph
