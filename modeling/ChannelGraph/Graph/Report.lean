import ChannelGraph.Console.Block
import ChannelGraph.Graph.Basic
import ChannelGraph.TypeExpr.Written

/-!
# Reports on graphs

A graph is shown as a table of its channels and a table of its nodes, both in the order of the
names; where there is nothing to list, a remark takes the place of the table. All names and
types are shown as text. A channel whose type has not been inferred counts as unresolved.
-/

namespace ChannelGraph

open Console

namespace Report

/-- The entries of a map in the order of their names. -/
def byName {α : Type} (m : OrderedMap String α) : List (String × α) :=
  m.entries.mergeSort fun a b ↦ a.1 ≤ b.1

/-- What stands for the type of a channel that has none. -/
def unresolved : Markup :=
  .styled "red" ⟨"unresolved"⟩

/-- What stands for an empty list of type parameters. -/
def noParams : Markup :=
  .styled "dim" ⟨"-"⟩

/-- What follows the part of a node that is not enabled. -/
def disabled : Markup :=
  ⟨" "⟩ ++ .styled "dim" ⟨"(disabled)"⟩

/-! ### Channels -/

/-- The type of a channel. -/
def channelType (c : Channel) : Except Malformed Markup :=
  match c.type with
  | some e => e.written.map Markup.ofText
  | none => .ok unresolved

/-- The row of a channel: its name, capacity, type and pins. -/
def channelRow (entry : String × Channel) : Except Malformed (List Markup) :=
  (channelType entry.2).map fun type ↦
    [.ofText entry.1, ⟨entry.2.capacity.shown⟩, type,
      .ofText (", ".intercalate (entry.2.pins.toList.map PinRef.text))]

/-- The columns of the table of channels. -/
def channelColumns : List Column :=
  [⟨"Channel", .left⟩, ⟨"Cap", .right⟩, ⟨"Type", .left⟩, ⟨"Pins", .left⟩]

/-! ### Nodes -/

/-- A type parameter of a node with its type. -/
def paramText (entry : String × String) : String :=
  "$" ++ entry.1 ++ " = " ++ entry.2

/-- The type parameters of a node. -/
def params (n : Node) : Markup :=
  let text := ", ".intercalate ((byName n.typeParams).map paramText)
  if text.isEmpty then noParams else .ofText text

/-- The kind of a node's part. -/
def part (n : Node) : Markup :=
  let heading : Markup := ⟨n.part.kind.heading⟩
  if n.settings.enabled.isBlank then heading ++ disabled else heading

/-- The number of instances of a node. -/
def instances (n : Node) : Markup :=
  let count := n.settings.multiplicity.shown
  ⟨if n.settings.wait.isBlank then count ++ " (no wait)" else count⟩

/-- The row of a node: its name, part, number of instances and type parameters. -/
def nodeRow (entry : String × Node) : List Markup :=
  [.ofText entry.1, part entry.2, instances entry.2, params entry.2]

/-- The columns of the table of nodes. -/
def nodeColumns : List Column :=
  [⟨"Node", .left⟩, ⟨"Part", .left⟩, ⟨"Instances", .right⟩, ⟨"Type parameters", .left⟩]

end Report

namespace Graph

/-- The report on the channels of a graph. -/
def channelReport (g : Graph) : Except Malformed Block :=
  if g.channels.entries.isEmpty then .ok (.markup (.styled "dim" ⟨"No channels"⟩))
  else
    ((Report.byName g.channels).mapM Report.channelRow).map fun rows ↦
      .table ⟨Report.channelColumns, rows⟩

/-- The report on the nodes of a graph. -/
def nodeReport (g : Graph) : Block :=
  if g.nodes.entries.isEmpty then .markup (.styled "dim" ⟨"No nodes"⟩)
  else .table ⟨Report.nodeColumns, (Report.byName g.nodes).map Report.nodeRow⟩

end Graph

end ChannelGraph
