import ChannelGraph.Document.Conversion
import ChannelGraph.Proofs.Document.Parts
import ChannelGraph.Proofs.Document.Readable
import ChannelGraph.Proofs.Json.Writing

/-!
# Documents that were written

The text of a document whose numbers can be read is read as the document again, unless it has a
coordinate that is not finite (`Document.Readable.ofText_written`). Such a coordinate is written as
`null`, which is no number to the reader, so the document is refused; what is found is one fault for
each such coordinate (`Document.lostCoordinates`) and nothing else.

The text is read as what is left of the value of the document (`Json.rendered`). Only coordinates
are floating-point numbers, so everything else is left as it was (`Part.rendered_config`,
`NodeRecord.rendered_json`), and the check of each field is known.
-/

namespace ChannelGraph

/-! ### Values of documents -/

/-- The configuration of a part has at most three levels. -/
theorem Part.Readable.config {depth : Nat} {part : Part} (h : part.Readable) :
    Json.Readable (depth + 3) part.config := by
  have htexts (texts : List String) : Json.Readable (depth + 2) (textsJson texts) := by
    refine .array fun v hv ↦ ?_
    obtain ⟨s, -, rfl⟩ := List.mem_map.1 hv
    exact .string s
  cases part with
  | code block =>
    have hpins : Json.Readable (depth + 2)
        (.object (block.pins.entries.map fun e ↦ (e.1, pinConfig e.2))) := by
      refine .object fun e he ↦ ?_
      obtain ⟨pin, -, rfl⟩ := List.mem_map.1 he
      refine .object ?_
      simp only [List.forall_mem_cons]
      exact ⟨.string _, .string _, fun _ h ↦ nomatch h⟩
    refine .object ?_
    simp only [List.forall_mem_cons]
    exact ⟨htexts _, .string _, .string _, .string _, hpins, fun _ h ↦ nomatch h⟩
  | transform imports body =>
    refine .object ?_
    simp only [List.forall_mem_cons]
    exact ⟨htexts _, .string _, fun _ h ↦ nomatch h⟩
  | broadcast n => exact .object (List.forall_mem_singleton.2 (.int h))
  | gather n => exact .object (List.forall_mem_singleton.2 (.int h))
  | unslicer => exact .noEntries

/-- A node is written as a value of bounded depth that can be read. -/
theorem NodeRecord.Readable.nodeJson {depth : Nat} {r : NodeRecord} (h : r.Readable) :
    Json.Readable (depth + 4) (Document.nodeJson r) := by
  have hconnections : Json.Readable (depth + 3)
      (.object (r.connections.entries.map fun e ↦ (e.1, .string e.2))) := by
    refine .object fun e he ↦ ?_
    obtain ⟨connection, -, rfl⟩ := List.mem_map.1 he
    exact .string _
  refine .object ?_
  simp only [List.forall_mem_cons]
  exact ⟨.string _, h.part.config, .bool _, .bool _, .int h.multiplicity, .float h.x, .float h.y,
    hconnections, fun _ h ↦ nomatch h⟩

/-- A document is written as a value of bounded depth that can be read. -/
theorem Document.Readable.toJson {depth : Nat} {d : Document} (h : d.Readable) :
    Json.Readable (depth + 6) d.toJson := by
  have hnodes : Json.Readable (depth + 5)
      (.object (d.nodes.entries.map fun e ↦ (e.1, nodeJson e.2))) := by
    refine .object fun e he ↦ ?_
    obtain ⟨⟨name, r⟩, hr, rfl⟩ := List.mem_map.1 he
    exact (h.node r (OrderedMap.mem_values_of_mem_entries hr)).nodeJson
  have hchannels : Json.Readable (depth + 5)
      (.object (d.channels.entries.map fun e ↦ (e.1, channelJson e.2))) := by
    refine .object fun e he ↦ ?_
    obtain ⟨⟨name, c⟩, hc, rfl⟩ := List.mem_map.1 he
    exact .object (List.forall_mem_singleton.2
      (.int (h.channel c (OrderedMap.mem_values_of_mem_entries hc))))
  refine .object ?_
  simp only [List.forall_mem_cons]
  exact ⟨.string _, .string _, .bool _, hnodes, hchannels, fun _ h ↦ nomatch h⟩

/-! ### What is left of them -/

namespace Json

variable {α : Type}

theorem rendered_array (items : List α) (write : α → Json) :
    rendered (.array (items.map write)) = .array (items.map fun a ↦ (write a).rendered) := by
  rw [rendered, renderedItems_eq, List.map_map]
  rfl

theorem rendered_object (entries : List (String × α)) (write : α → Json) :
    rendered (.object (entries.map fun e ↦ (e.1, write e.2))) =
      .object (entries.map fun e ↦ (e.1, (write e.2).rendered)) := by
  rw [rendered, renderedEntries_eq, List.map_map]
  rfl

end Json

/-- No number of a configuration is lost. -/
theorem Part.rendered_config (part : Part) : part.config.rendered = part.config := by
  have htexts (texts : List String) : (textsJson texts).rendered = textsJson texts :=
    Json.rendered_array texts .string
  cases part with
  | code block =>
    show Json.object [("imports", (textsJson block.imports).rendered), _, _, _,
      ("pins", Json.rendered _)] = _
    rw [htexts, Json.rendered_object]
    rfl
  | transform imports body =>
    show Json.object [("imports", (textsJson imports).rendered), _] = _
    rw [htexts]
    rfl
  | _ => rfl

/-! ### What is found in them -/

/-- What is found where a coordinate was: a number that is not finite is lost. -/
def lostCoordinate (key : String) (v : Json) : List Fault :=
  match v with
  | .float x => if x.isFinite then [] else [⟨[.key key], .notFloat⟩]
  | _ => []

namespace NodeSettings

/-- What is found in the place of the coordinates of a node. -/
def lostCoordinates (s : NodeSettings) : List Fault :=
  lostCoordinate "x" s.x ++ lostCoordinate "y" s.y

/-- What is found in the place of the coordinates of several nodes. -/
def lostOfNodes (nodes : OrderedMap String NodeSettings) : List Fault :=
  nodes.entries.flatMap fun e ↦ e.2.lostCoordinates.map fun f ↦
    ⟨.key "nodes" :: .key e.1 :: f.place, f.kind⟩

end NodeSettings

/-- What is found in the place of the coordinates of a document. -/
def Document.lostCoordinates (d : Document) : List Fault :=
  NodeSettings.lostOfNodes (d.nodes.map fun _ r ↦ .ofRecord r)

/-- A coordinate that was written is read again, with a fault if its text was lost. -/
theorem optional_coordinate {members : List (String × Json)} {key : String} {x : Binary64}
    (h : Json.member? key members = some (Json.rendered (.float x))) (default : Binary64) :
    Checked.optional members key default (Checked.leaf Lenient.float) =
      Checked.andCheck (.ok x) (lostCoordinate key (.float x)) := by
  rw [Checked.optional, h, Json.rendered, lostCoordinate]
  cases x with
  | finite negative m e => rfl
  | _ => rfl

namespace NodeRecord

/-- What becomes of a node in a text, field by field; only its coordinates can change. -/
theorem rendered_json (r : NodeRecord) : (Document.nodeJson r).rendered = .object
    [("part_type", .string r.part.kind.word), ("part", r.part.config),
      ("enabled", .bool r.enabled), ("wait", .bool r.wait),
      ("multiplicity", .int (r.multiplicity : Nat)), ("x", Json.rendered (.float r.x)),
      ("y", Json.rendered (.float r.y)),
      ("connections", .object (r.connections.entries.map fun e ↦ (e.1, .string e.2)))] := by
  show Json.object [_, ("part", r.part.config.rendered), _, _, _, _, _,
    ("connections", Json.rendered (.object (r.connections.entries.map _)))] = _
  rw [Part.rendered_config, Json.rendered_object]
  rfl

/-- A node that was written is checked to be the same but for lost coordinates. -/
theorem check_rendered (r : NodeRecord) : check (Document.nodeJson r).rendered =
    Checked.andCheck (.ok r) (NodeSettings.ofRecord r).lostCoordinates := by
  have hkind : PartKind.check (.string r.part.kind.word) = .ok r.part.kind := by
    rw [PartKind.check, PartKind.ofJson?, PartKind.ofWord?_word]
  have hconfig : (r.part.config.membersOr .notTable).map .object = .ok r.part.config := by
    cases r.part <;> rfl
  have hbool (b : Bool) : Checked.leaf Lenient.bool (.bool b) = .ok b := rfl
  have hconnections : Checked.writtenTable (Checked.leaf Lenient.text)
      (.object (r.connections.entries.map fun e ↦ (e.1, .string e.2))) = .ok r.connections :=
    Checked.entries_written fun _ _ ↦ rfl
  rw [rendered_json, check, Json.membersOr_object ["part_type", "part", "enabled", "wait",
    "multiplicity", "x", "y", "connections"] rfl (by decide)]
  show (checkFields _).bind _ = _
  rw [checkFields]
  dsimp only
  rw [Checked.required_eq_ok rfl hkind, Checked.optional_eq_ok rfl hconfig,
    Checked.optional_eq_ok rfl (hbool r.enabled), Checked.optional_eq_ok rfl (hbool r.wait),
    Checked.optional_eq_ok rfl r.multiplicity.leaf_positive, optional_coordinate rfl,
    optional_coordinate rfl, Checked.optional_eq_ok rfl hconnections]
  -- nothing is found in the fields in front of the coordinates and behind them
  show (Checked.ap (Checked.ap (Checked.ap (Checked.andCheck (.ok _) [])
    (Checked.andCheck (.ok r.x) _)) (Checked.andCheck (.ok r.y) _))
    (Checked.andCheck (.ok r.connections) [])).bind _ = _
  rw [Checked.ap_andCheck, Checked.ap_andCheck, Checked.ap_andCheck, List.nil_append,
    List.append_nil]
  refine Checked.bind_andCheck ?_ _
  dsimp only
  rw [Part.configure_config]
  rfl

end NodeRecord

/-- A channel is read again as it was written. -/
theorem ChannelRecord.check_rendered (c : ChannelRecord) :
    check (Document.channelJson c).rendered = .ok c := by
  have hcapacity : Checked.leaf Lenient.natural (.int c.capacity) = .ok c.capacity := by
    have hnonneg : (0 : Int) ≤ c.capacity := Int.natCast_nonneg _
    refine Checked.leaf_eq_ok_iff.2 ?_
    show (if (0 : Int) ≤ c.capacity then Except.ok c.capacity else .error FaultKind.tooSmall) = _
    rw [if_pos hnonneg]
  show check (.object [("cap", .int c.capacity)]) = _
  rw [check, Json.membersOr_object ["cap"] rfl (by decide), Except.bind,
    Checked.optional_eq_ok rfl hcapacity]
  rfl

namespace Document

/-- What becomes of a document in a text. -/
theorem rendered_toJson (d : Document) : d.toJson.rendered = .object
    [("name", .string d.name), ("package_path", .string d.packagePath),
      ("is_command", .bool d.isCommand),
      ("nodes", .object (d.nodes.entries.map fun e ↦ (e.1, (nodeJson e.2).rendered))),
      ("channels",
        .object (d.channels.entries.map fun e ↦ (e.1, (channelJson e.2).rendered)))] := by
  show Json.object [_, _, _, ("nodes", Json.rendered (.object (d.nodes.entries.map _))),
    ("channels", Json.rendered (.object (d.channels.entries.map _)))] = _
  rw [Json.rendered_object, Json.rendered_object]
  rfl

/-- A document that was written is checked to be the same but for lost coordinates. -/
theorem check_rendered (d : Document) :
    check d.toJson.rendered = Checked.andCheck (.ok d) d.lostCoordinates := by
  have htext (s : String) : Checked.leaf Lenient.text (.string s) = .ok s := rfl
  have hbool (b : Bool) : Checked.leaf Lenient.bool (.bool b) = .ok b := rfl
  have hnodes : Checked.writtenTable NodeRecord.check
      (.object (d.nodes.entries.map fun e ↦ (e.1, (nodeJson e.2).rendered))) =
        Checked.andCheck (.ok d.nodes) (d.nodes.entries.flatMap fun e ↦
          (NodeSettings.ofRecord e.2).lostCoordinates.map fun f ↦ ⟨.key e.1 :: f.place, f.kind⟩) :=
    Checked.entries_eq fun r _ ↦ NodeRecord.check_rendered r
  have hchannels : Checked.writtenTable ChannelRecord.check
      (.object (d.channels.entries.map fun e ↦ (e.1, (channelJson e.2).rendered))) =
        .ok d.channels :=
    Checked.entries_written fun c _ ↦ ChannelRecord.check_rendered c
  rw [rendered_toJson, check, Json.membersOr_object ["name", "package_path", "is_command", "nodes",
    "channels"] rfl (by decide)]
  -- the fields are checked in turn, and only nodes can have faults
  show (Checked.ap (Checked.ap (Checked.ap (Checked.ap ((Checked.optional _ "name" _ _).map _)
    (Checked.optional _ "package_path" _ _)) (Checked.optional _ "is_command" _ _))
    (Checked.inside (.key "nodes") (Checked.writtenTable _ _)))
    (Checked.optional _ "channels" _ _)) = _
  rw [Checked.optional_eq_ok rfl (htext d.name), Checked.optional_eq_ok rfl (htext d.packagePath),
    Checked.optional_eq_ok rfl (hbool d.isCommand), hnodes, Checked.optional_eq_ok rfl hchannels,
    Checked.inside_andCheck]
  show Checked.ap (Checked.ap (Checked.andCheck (.ok _) []) (Checked.andCheck (.ok d.nodes) _))
    (Checked.andCheck (.ok d.channels) []) = _
  have hlost : d.lostCoordinates = d.nodes.entries.flatMap fun e ↦
      (NodeSettings.ofRecord e.2).lostCoordinates.map fun f ↦
        ⟨.key "nodes" :: .key e.1 :: f.place, f.kind⟩ :=
    List.flatMap_map ..
  rw [Checked.ap_andCheck, Checked.ap_andCheck, List.nil_append, List.append_nil, List.map_flatMap,
    hlost]
  simp only [List.map_map]
  rfl

/-- In every layout the text of a document is read as the document again but for lost
coordinates. -/
theorem Readable.ofText_written {d : Document} (h : d.Readable) (layout : Json.Layout) :
    ofText (d.written layout) = Checked.andCheck (.ok d) d.lostCoordinates := by
  have hread : Json.ofText? Json.depthLimit (d.written layout) = some d.toJson.rendered := by
    have hjson : Json.Readable (194 + 6) d.toJson := h.toJson
    exact Json.ofText?_written hjson layout
  rw [ofText, hread]
  exact d.check_rendered

end Document

end ChannelGraph
