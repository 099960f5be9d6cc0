import ChannelGraph.Graph.PinSet
import ChannelGraph.Json.Shown
import ChannelGraph.Part

/-!
# Graphs of nodes and channels

A node is an instance of a part, a channel a conduit shared by pins. The wiring is kept twice.
A node names, for each pin, the channel that the pin is connected to; a channel caches the
pins that are connected to it. Editing changes the connections and leaves the caches behind,
until they are rebuilt (module `ChannelGraph.Graph.Wiring`).

Nodes and channels are kept by name, so the name of each is its key. A connection should be the
name of a channel; the empty name, the name `nil` and whatever is no name connect their pin to no
channel (`Node.connectedChannel`).

The types of channels and pins are derived: they are there after a successful inference only.

What a graph does not interpret is kept as it was given, whatever it is: the capacity of a channel,
the settings of a node, a connection, whether the program is a command. When a node or a channel is
added its count is compared with a bound, and no more; the values are checked when the graph is
stored (module `ChannelGraph.Document.Conversion`).
-/

namespace ChannelGraph

/-- The name that stands for no channel. -/
def nilName : String :=
  "nil"

/-- The connection of a pin to nothing. -/
def noConnection : Json :=
  .string nilName

/-- A conduit shared by pins. -/
structure Channel where
  /-- How many values the channel buffers; none if it is unbuffered. -/
  capacity : Json := .int 0
  /-- The cached pins that are connected to the channel. -/
  pins : PinSet := ∅
  /-- The inferred type. -/
  type : Option TypeExpr := none
deriving DecidableEq

/-- What a node is given besides its part and its connections. -/
structure NodeSettings where
  /-- How many instances of the node run. -/
  multiplicity : Json := .int 1
  /-- Whether the program waits for the node to finish. -/
  wait : Json := .bool true
  /-- Whether the node takes part in the generated program. -/
  enabled : Json := .bool true
  /-- The first layout coordinate. -/
  x : Json := .float (.zero false)
  /-- The second layout coordinate. -/
  y : Json := .float (.zero false)
deriving DecidableEq

/-- An instance of a part in a graph. -/
structure Node where
  /-- The computation behind the node. -/
  part : Part
  /-- What each pin is connected to, as it was given. -/
  connections : OrderedMap String Json := ∅
  /-- Everything else that the node was given. -/
  settings : NodeSettings := {}
  /-- The inferred types of the connected pins. -/
  pinTypes : OrderedMap String TypeExpr := ∅
  /-- The texts of the inferred type parameters. -/
  typeParams : OrderedMap String String := ∅
deriving DecidableEq

/-- A program: nodes wired together by channels. -/
structure Graph where
  /-- The display name of the program. -/
  name : String := ""
  /-- The import path of the generated package. -/
  packagePath : String := ""
  /-- Whether the generated package is a command. -/
  isCommand : Json := .bool false
  /-- The nodes, by name. -/
  nodes : OrderedMap String Node := ∅
  /-- The channels, by name. -/
  channels : OrderedMap String Channel := ∅
deriving DecidableEq

/-! ### Faults -/

/-- Why an operation on a graph is refused. -/
inductive GraphFault where
  /-- There is no node of that name. -/
  | unknownNode (name : String)
  /-- There is no channel of that name to operate on. -/
  | unknownChannel (name : String)
  /-- A node of that name is there already. -/
  | nodeExists (name : String)
  /-- A channel of that name is there already. -/
  | channelExists (name : String)
  /-- A count is not a number. -/
  | notCount
  /-- A node is given fewer than one instance. -/
  | badMultiplicity (node : String) (given : Json)
  /-- A channel is given a negative capacity. -/
  | badCapacity (channel : String) (given : Json)
  /-- A node has no pin of that name. -/
  | unknownPin (node pin : String)
  /-- The channel to connect to does not exist. -/
  | noChannel (name : String)
  /-- A channel caches a pin of a node that does not exist. -/
  | ghostPin (node channel : String)
  /-- A connection cannot be looked up. -/
  | badConnection (given : Json)
deriving DecidableEq

namespace GraphFault

/-- What is said about a fault; an unknown name is said as it is. -/
def message : GraphFault → String
  | unknownNode name => name
  | unknownChannel name => name
  | nodeExists name => s!"Node '{name}' already exists"
  | channelExists name => s!"Channel '{name}' already exists"
  | notCount => "not a number"
  | badMultiplicity node given =>
    s!"Node '{node}' multiplicity must be at least 1, got {given.shown}"
  | badCapacity channel given =>
    s!"Channel '{channel}' capacity must be non-negative, got {given.shown}"
  | unknownPin node pin => s!"Node '{node}' has no pin '{pin}'"
  | noChannel name => s!"Channel '{name}' does not exist"
  | ghostPin node channel => s!"Node '{node}' wired to channel '{channel}' should exist"
  | badConnection given => s!"no name of a channel: {given.shown}"

end GraphFault

/-! ### Nodes -/

namespace Node

/-- The pins of a node, by name. -/
def pins (n : Node) : OrderedMap String Pin :=
  n.part.pins

/-- The connection of a pin; a pin that has none is connected to nothing. -/
def connection (n : Node) (pin : String) : Json :=
  (n.connections.get? pin).getD noConnection

/-- What a pin is connected to, unless that is nothing. -/
def connected (n : Node) (pin : String) : Option Json :=
  match n.connection pin with
  | .string c => if c = "" ∨ c = nilName then none else some (.string c)
  | v => some v

/-- The channel that a pin is connected to, if it is connected to one by name. -/
def connectedChannel (n : Node) (pin : String) : Option String :=
  match n.connected pin with
  | some (.string c) => some c
  | _ => none

/-- A connection, or the one to nothing where it is blank. -/
def settledConnection (v : Json) : Json :=
  if v.isBlank then noConnection else v

/-- Align the connections with the pins of the part: pins without connection become
unconnected, and connections of other pins are dropped. -/
def align (n : Node) : Node :=
  { n with connections := n.pins.map fun pin _ ↦ settledConnection (n.connection pin) }

/-- Write the connection of a pin, whether or not the part has the pin. -/
def setConnection (n : Node) (pin : String) (given : Json) : Node :=
  { n with connections := n.connections.insert pin given }

/-- Forget the inferred types. -/
def clearTypes (n : Node) : Node :=
  { n with pinTypes := ∅, typeParams := ∅ }

/-- Why a node cannot be added under a name for what it was given. -/
def refusal? (name : String) (n : Node) : Option GraphFault :=
  match n.settings.multiplicity.isBelow? 1 with
  | none => some .notCount
  | some true => some (.badMultiplicity name n.settings.multiplicity)
  | some false => none

end Node

namespace Channel

/-- Why a channel cannot be added under a name for what it was given. -/
def refusal? (name : String) (c : Channel) : Option GraphFault :=
  match c.capacity.isBelow? 0 with
  | none => some .notCount
  | some true => some (.badCapacity name c.capacity)
  | some false => none

end Channel

/-! ### Looking up and editing -/

namespace Graph

/-- The import that every generated program needs, for its wait group. -/
def alwaysImported : String :=
  "\"sync\""

/-- The last segment of the import path. -/
def packageName (g : Graph) : String :=
  String.ofList (g.packagePath.toList.reverse.takeWhile (· ≠ '/')).reverse

/-- All imports that the generated program needs, each once and in order. -/
def allImports (g : Graph) : List String :=
  (alwaysImported :: g.nodes.values.flatMap fun n ↦ n.part.imports).eraseDups.mergeSort
    fun a b ↦ a ≤ b

/-- The node of a name. -/
def node (g : Graph) (name : String) : Except GraphFault Node :=
  match g.nodes.get? name with
  | some n => .ok n
  | none => .error (.unknownNode name)

/-- The channel of a name. -/
def channel (g : Graph) (name : String) : Except GraphFault Channel :=
  match g.channels.get? name with
  | some c => .ok c
  | none => .error (.unknownChannel name)

/-- Add a node under a new name, with its connections aligned. -/
def addNode (g : Graph) (name : String) (n : Node) : Except GraphFault Graph :=
  match n.refusal? name with
  | some fault => .error fault
  | none =>
    if name ∈ g.nodes then .error (.nodeExists name)
    else .ok { g with nodes := g.nodes.insert name n.align }

/-- Add a channel under a new name. -/
def addChannel (g : Graph) (name : String) (c : Channel) : Except GraphFault Graph :=
  match c.refusal? name with
  | some fault => .error fault
  | none =>
    if name ∈ g.channels then .error (.channelExists name)
    else .ok { g with channels := g.channels.insert name c }

/-- Change a node that has to exist. -/
def editNode (g : Graph) (name : String) (f : Node → Node) : Except GraphFault Graph :=
  (g.node name).map fun _ ↦ { g with nodes := g.nodes.modify name f }

/-- Change a channel that has to exist. -/
def editChannel (g : Graph) (name : String) (f : Channel → Channel) : Except GraphFault Graph :=
  (g.channel name).map fun _ ↦ { g with channels := g.channels.modify name f }

/-- Why a pin cannot be wired to what is given. -/
def connectionRefusal? (g : Graph) (given : Json) : Option GraphFault :=
  match given with
  | .string name => if name = nilName ∨ name ∈ g.channels then none else some (.noChannel name)
  | v => some (if v.isContainer then .badConnection v else .noChannel v.shown)

/-- Wire a pin of a node to a channel, or to nothing. The caches are left as they are. -/
def connect (g : Graph) (node pin : String) (given : Json) : Except GraphFault Graph :=
  (g.node node).bind fun n ↦
    if pin ∉ n.pins then .error (.unknownPin node pin)
    else
      match g.connectionRefusal? given with
      | some fault => .error fault
      | none => g.editNode node fun n ↦ n.setConnection pin given

/-- Give a node another part. Its connections are left as they are. -/
def setPart (g : Graph) (node : String) (part : Part) : Except GraphFault Graph :=
  g.editNode node fun n ↦ { n with part := part }

/-- Write the connection of a pin without any check. -/
def setConnection (g : Graph) (node pin : String) (given : Json) : Except GraphFault Graph :=
  g.editNode node fun n ↦ n.setConnection pin given

/-- Align the connections of a node with its part. -/
def alignNode (g : Graph) (node : String) : Except GraphFault Graph :=
  g.editNode node Node.align

/-- Add a pin to the cache of a channel. -/
def addPin (g : Graph) (channel : String) (p : PinRef) : Except GraphFault Graph :=
  g.editChannel channel fun c ↦ { c with pins := c.pins.insert p }

/-- Remove a pin from the cache of a channel. -/
def removePin (g : Graph) (channel : String) (p : PinRef) : Except GraphFault Graph :=
  g.editChannel channel fun c ↦ { c with pins := c.pins.erase p }

/-- Take a node out of the graph and leave all wiring as it is. -/
def dropNode (g : Graph) (name : String) : Except GraphFault Graph :=
  (g.node name).map fun _ ↦ { g with nodes := g.nodes.erase name }

/-- Take a channel out of the graph and leave all wiring as it is. -/
def dropChannel (g : Graph) (name : String) : Except GraphFault Graph :=
  (g.channel name).map fun _ ↦ { g with channels := g.channels.erase name }

end Graph

end ChannelGraph
