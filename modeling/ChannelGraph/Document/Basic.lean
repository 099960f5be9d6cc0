import ChannelGraph.Document.PartConfig
import ChannelGraph.Json.Reading
import ChannelGraph.Json.Writing

/-!
# Graph documents

A document is the persisted form of a graph: the nodes with their parts and connections, and
the channels with their capacities, by name and in the order of the text. `Document.ofText`
reads the JSON text of a document and reports every fault in it; `Document.written` writes
one, with all fields in their order.

Fields that a document does not know are ignored. The configuration of a node's part is
checked once all other fields of the node are in order, and its faults are placed at the node
itself.
-/

namespace ChannelGraph

/-- A channel as stored in a document. -/
structure ChannelRecord where
  /-- How many values the channel buffers. -/
  capacity : Nat := 0
deriving DecidableEq

/-- A node as stored in a document. -/
structure NodeRecord where
  /-- The computation behind the node. -/
  part : Part
  /-- Whether the node takes part in the generated program. -/
  enabled : Bool := true
  /-- Whether the program waits for the node to finish. -/
  wait : Bool := true
  /-- How many instances of the node run. -/
  multiplicity : Positive := ⟨1, by decide⟩
  /-- The first layout coordinate. -/
  x : Binary64 := .zero false
  /-- The second layout coordinate. -/
  y : Binary64 := .zero false
  /-- The channel named for each pin. -/
  connections : OrderedMap String String := ∅
deriving DecidableEq

/-- The persisted form of a graph. -/
structure Document where
  /-- The display name of the program. -/
  name : String := ""
  /-- The import path of the generated package. -/
  packagePath : String := ""
  /-- Whether the generated package is a command. -/
  isCommand : Bool := false
  /-- The nodes, by name. -/
  nodes : OrderedMap String NodeRecord := ∅
  /-- The channels, by name. -/
  channels : OrderedMap String ChannelRecord := ∅
deriving DecidableEq

/-! ### Reading -/

namespace ChannelRecord

/-- The channel that a value describes. -/
def check (v : Json) : Checked ChannelRecord :=
  (v.membersOr .notRecord).bind fun members ↦
    (Checked.optional members "cap" 0 (Checked.leaf Lenient.natural)).map ChannelRecord.mk

end ChannelRecord

namespace NodeRecord

/-- The fields of a node, its part still as a kind and a configuration. -/
def checkFields (members : List (String × Json)) :
    Checked (PartKind × Json × (Part → NodeRecord)) :=
  let kind := Checked.required members "part_type" PartKind.check
  let config := Checked.optional members "part" (.object []) fun v ↦
    (v.membersOr .notTable).map .object
  let enabled := Checked.optional members "enabled" true (Checked.leaf Lenient.bool)
  let wait := Checked.optional members "wait" true (Checked.leaf Lenient.bool)
  let multiplicity := Checked.optional members "multiplicity" ⟨1, by decide⟩
    (Checked.leaf Lenient.positive)
  let x := Checked.optional members "x" (.zero false) (Checked.leaf Lenient.float)
  let y := Checked.optional members "y" (.zero false) (Checked.leaf Lenient.float)
  let connections := Checked.optional members "connections" ∅
    (Checked.writtenTable (Checked.leaf Lenient.text))
  let make (k : PartKind) (c : Json) (enabled wait : Bool) (n : Positive) (x y : Binary64)
      (connections : OrderedMap String String) : PartKind × Json × (Part → NodeRecord) :=
    (k, c, fun part ↦ ⟨part, enabled, wait, n, x, y, connections⟩)
  Checked.ap (Checked.ap (Checked.ap (Checked.ap (Checked.ap (Checked.ap (Checked.ap
    (kind.map make) config) enabled) wait) multiplicity) x) y) connections

/-- The node that a value describes. -/
def check (v : Json) : Checked NodeRecord :=
  (v.membersOr .notRecord).bind fun members ↦
    (checkFields members).bind fun (kind, config, make) ↦ (Part.configure kind config).map make

end NodeRecord

namespace Document

/-- The document that a value describes. -/
def check (v : Json) : Checked Document :=
  (v.membersOr .notRecord).bind fun members ↦
    let name := Checked.optional members "name" "" (Checked.leaf Lenient.text)
    let path := Checked.optional members "package_path" "" (Checked.leaf Lenient.text)
    let isCommand := Checked.optional members "is_command" false (Checked.leaf Lenient.bool)
    let nodes := Checked.optional members "nodes" ∅ (Checked.writtenTable NodeRecord.check)
    let channels := Checked.optional members "channels" ∅ (Checked.writtenTable ChannelRecord.check)
    Checked.ap (Checked.ap (Checked.ap (Checked.ap (name.map Document.mk) path) isCommand) nodes)
      channels

/-- The document with a JSON text. -/
def ofText (text : String) : Checked Document :=
  match Json.ofText? Json.depthLimit text with
  | none => Checked.fail .notJson
  | some v => check v

/-- The document in a file with the given bytes, which have to be UTF-8. -/
def ofBytes (bytes : ByteArray) : Checked Document :=
  match String.fromUTF8? bytes with
  | none => Checked.fail .notJson
  | some text => ofText text

/-! ### Writing -/

/-- The JSON value of a node. -/
def nodeJson (n : NodeRecord) : Json :=
  .object [("part_type", .string n.part.kind.word), ("part", n.part.config),
    ("enabled", .bool n.enabled), ("wait", .bool n.wait),
    ("multiplicity", .int (n.multiplicity : Nat)), ("x", .float n.x), ("y", .float n.y),
    ("connections", .object (n.connections.entries.map fun e ↦ (e.1, .string e.2)))]

/-- The JSON value of a channel. -/
def channelJson (c : ChannelRecord) : Json :=
  .object [("cap", .int c.capacity)]

/-- The JSON value of a document. -/
def toJson (d : Document) : Json :=
  .object [("name", .string d.name), ("package_path", .string d.packagePath),
    ("is_command", .bool d.isCommand),
    ("nodes", .object (d.nodes.entries.map fun e ↦ (e.1, nodeJson e.2))),
    ("channels", .object (d.channels.entries.map fun e ↦ (e.1, channelJson e.2)))]

/-- The JSON text of a document. -/
def written (layout : Json.Layout) (d : Document) : String :=
  d.toJson.written layout

end Document

end ChannelGraph
