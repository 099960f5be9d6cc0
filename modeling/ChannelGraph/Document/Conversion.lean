import ChannelGraph.Document.Basic
import ChannelGraph.Graph.Wiring

/-!
# Graphs and documents

A graph is built from a document by taking over its nodes and channels and then rebuilding
the wiring, so channels with fewer than two pins do not get into it. A graph is stored by
taking over what the document has; derived types and caches are left out, and every kind of
missing connection is stored as the one to nothing.

The values that a graph keeps as they were given are checked when it is stored, by the lenient
rules of documents: first the nodes one after the other, then the channels, last the graph
itself. Storing stops at the first of them that has faults, and these are placed within it.
-/

namespace ChannelGraph

namespace NodeSettings

/-- The settings of a node that a document describes. -/
def ofRecord (r : NodeRecord) : NodeSettings where
  multiplicity := .int (r.multiplicity : Nat)
  wait := .bool r.wait
  enabled := .bool r.enabled
  x := .float r.x
  y := .float r.y

end NodeSettings

namespace Node

/-- The node that a document describes. -/
def ofRecord (r : NodeRecord) : Node where
  part := r.part
  connections := r.connections.map fun _ c ↦ .string c
  settings := .ofRecord r

/-- What a document stores of a node. -/
def toRecord (n : Node) : Checked NodeRecord :=
  let setting {α : Type} (key : String) (read : Json → Except FaultKind α) (v : Json) :
      Checked α := Checked.inside (.key key) (Checked.leaf read v)
  let stored := n.connections.map fun _ v ↦ settledConnection v
  let connections := Checked.inside (.key "connections") <|
    Checked.entries (Checked.leaf Lenient.text) stored.entries
  let make (enabled wait : Bool) (multiplicity : Positive) (x y : Binary64)
      (connections : OrderedMap String String) : NodeRecord :=
    ⟨n.part, enabled, wait, multiplicity, x, y, connections⟩
  Checked.ap (Checked.ap (Checked.ap (Checked.ap (Checked.ap
    ((setting "enabled" Lenient.bool n.settings.enabled).map make)
    (setting "wait" Lenient.bool n.settings.wait))
    (setting "multiplicity" Lenient.positive n.settings.multiplicity))
    (setting "x" Lenient.storedFloat n.settings.x))
    (setting "y" Lenient.storedFloat n.settings.y))
    connections

end Node

namespace Channel

/-- The channel that a document describes. -/
def ofRecord (r : ChannelRecord) : Channel where
  capacity := .int r.capacity

/-- What a document stores of a channel. -/
def toRecord (c : Channel) : Checked ChannelRecord :=
  (Checked.inside (.key "cap") (Checked.leaf Lenient.natural c.capacity)).map ChannelRecord.mk

end Channel

namespace Graph

/-- The graph that a document describes. -/
def ofDocument (d : Document) : Graph :=
  refresh
    { name := d.name
      packagePath := d.packagePath
      isCommand := .bool d.isCommand
      nodes := d.nodes.map fun _ r ↦ (Node.ofRecord r).align
      channels := d.channels.map fun _ r ↦ .ofRecord r }

/-- What a document stores of a graph. -/
def toDocument (g : Graph) : Checked Document :=
  (g.nodes.tryMap fun _ n ↦ n.toRecord).bind fun nodes ↦
    (g.channels.tryMap fun _ c ↦ c.toRecord).bind fun channels ↦
      (Checked.inside (.key "is_command") (Checked.leaf Lenient.bool g.isCommand)).map
        fun isCommand ↦ ⟨g.name, g.packagePath, isCommand, nodes, channels⟩

/-- The graph with a JSON text. -/
def ofText (text : String) : Checked Graph :=
  (Document.ofText text).map ofDocument

/-- The graph in a file with the given bytes. -/
def ofBytes (bytes : ByteArray) : Checked Graph :=
  (Document.ofBytes bytes).map ofDocument

/-- The JSON text of a graph. -/
def written (layout : Json.Layout) (g : Graph) : Checked String :=
  g.toDocument.map fun d ↦ d.written layout

/-- The text of a file that holds a graph. -/
def fileText (g : Graph) : Checked String :=
  (g.written (.indented 2)).map fun text ↦ text ++ "\n"

end Graph

end ChannelGraph
