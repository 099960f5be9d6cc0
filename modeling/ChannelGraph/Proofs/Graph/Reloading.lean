import ChannelGraph.Proofs.Document.Written
import ChannelGraph.Proofs.Graph.Loading
import ChannelGraph.Proofs.Graph.Saving

/-!
# Loading what was saved

A loaded graph can be written, and whether its text can be read again depends on the coordinates of
its nodes alone (`Loaded.ofText_written_cases`). A text may well have a coordinate that is not
finite: it only has to be too large. Such a coordinate is written as `null`, for which the whole
text is refused.

Everything else comes back. The numbers of a loaded graph are those of the document that it was
built from, so they can be read (`Loaded.exists_readable`). What is built from the stored document
is the rebuilt graph, and rebuilding finds nothing to do in a graph that was rebuilt, except that
pins whose connection was reset are cached for a channel that is named like no channel
(`Tidy.refresh_eq`).
-/

namespace ChannelGraph

/-- Only the part and the settings of a node have numbers. -/
theorem NodeRecord.Readable.of_eq {r r' : NodeRecord} (h : r.Readable) (hpart : r'.part = r.part)
    (hsettings : NodeSettings.ofRecord r' = .ofRecord r) : r'.Readable := by
  have hmultiplicity : ((r'.multiplicity : Nat) : Int) = (r.multiplicity : Nat) :=
    Json.int.inj (congrArg NodeSettings.multiplicity hsettings)
  have hx : r'.x = r.x := Json.float.inj (congrArg NodeSettings.x hsettings)
  have hy : r'.y = r.y := Json.float.inj (congrArg NodeSettings.y hsettings)
  exact {
    part := hpart ▸ h.part
    multiplicity := Int.ofNat.inj hmultiplicity ▸ h.multiplicity
    x := hx ▸ h.x
    y := hy ▸ h.y }

namespace Graph

variable {g : Graph} {d : Document} {name channel : String} {n : Node} {c : Channel}

/-! ### Rebuilding a graph that was rebuilt -/

/-- The graph in which all pins that are connected to nothing are cached for the channel that is
named like no channel, if there is one. -/
def cacheUnconnected (g : Graph) : Graph :=
  { g with
    channels := g.channels.modify nilName fun c ↦ { c with pins := wiredPins g.nodes nilName } }

/-- Nothing is cached for no channel where no channel has that name. -/
theorem cacheUnconnected_eq (hnil : nilName ∉ g.channels) : g.cacheUnconnected = g := by
  rw [cacheUnconnected, OrderedMap.modify_of_not_mem hnil]

/-- Rebuilding a graph that was rebuilt can only add pins to that cache. -/
theorem Tidy.refresh_eq (h : g.Tidy)
    (henough : ∀ channel c, g.channels.get? channel = some c → minPins ≤ c.pins.size) :
    g.refresh = g.cacheUnconnected := by
  have hcaches : g.rebuildCaches = g.cacheUnconnected := h.rebuildCaches_eq
  have hthin : g.rebuildCaches.thinChannels = [] := by
    refine List.eq_nil_iff_forall_not_mem.2 fun channel hmem ↦ ?_
    obtain ⟨c', hc', hsize⟩ := mem_thinChannels.1 hmem
    rw [hcaches, cacheUnconnected] at hc'
    rw [OrderedMap.get?_modify] at hc'
    split at hc'
    · rename_i hnil
      obtain ⟨c, hc, rfl⟩ := Option.map_eq_some_iff.1 hc'
      have hle : c.pins.size ≤ (wiredPins g.nodes nilName).size := by
        refine PinSet.size_le_size fun pin hpin ↦ mem_wiredPins.2 ?_
        exact hnil ▸ h.names channel c hc pin hpin
      exact Nat.not_lt.2 ((henough channel c hc).trans hle) hsize
    · exact Nat.not_lt.2 (henough channel c' hc') hsize
  rw [Graph.refresh_eq, hthin, withoutChannels_nil, hcaches]

/-! ### Graphs of documents -/

/-- A graph that was loaded has no types yet. -/
theorem clearTypes_ofDocument (d : Document) : (ofDocument d).clearTypes = ofDocument d := by
  rw [ofDocument, ← refresh_clearTypes]
  refine congrArg refresh ?_
  rw [clearTypes]
  dsimp only
  rw [OrderedMap.map_map, OrderedMap.map_map]
  rfl

/-- A node of a loaded graph comes from a record, with its part and its settings. -/
theorem exists_record_of_node (hn : (ofDocument d).nodes.get? name = some n) :
    ∃ r, d.nodes.get? name = some r ∧ n.part = r.part ∧ n.settings = .ofRecord r := by
  rw [ofDocument, refresh_eq, get?_nodes_withoutChannels, get?_nodes_rebuildCaches,
    OrderedMap.get?_map, Option.map_map, Option.map_map] at hn
  obtain ⟨r, hr, rfl⟩ := Option.map_eq_some_iff.1 hn
  exact ⟨r, hr, rfl, rfl⟩

/-- A channel of a loaded graph comes from a record, with its capacity. -/
theorem exists_record_of_channel (hc : (ofDocument d).channels.get? channel = some c) :
    ∃ r, d.channels.get? channel = some r ∧ c.capacity = .int r.capacity := by
  rw [ofDocument, refresh_eq, get?_channels_withoutChannels_iff, get?_channels_rebuildCaches,
    OrderedMap.get?_map, Option.map_map] at hc
  obtain ⟨r, hr, rfl⟩ := Option.map_eq_some_iff.1 hc.2
  exact ⟨r, hr, rfl⟩

/-- A loaded graph can be stored. -/
theorem storable_ofDocument (d : Document) : (ofDocument d).Storable where
  isCommand := ⟨d.isCommand, by rw [ofDocument, refresh_eq]; rfl⟩
  node := by
    intro name n hn
    obtain ⟨r, -, -, hsettings⟩ := exists_record_of_node hn
    rw [NodeSettings.ofRecord] at hsettings
    exact {
      multiplicity := ⟨r.multiplicity, congrArg NodeSettings.multiplicity hsettings⟩
      wait := ⟨r.wait, congrArg NodeSettings.wait hsettings⟩
      enabled := ⟨r.enabled, congrArg NodeSettings.enabled hsettings⟩
      x := ⟨r.x, congrArg NodeSettings.x hsettings⟩
      y := ⟨r.y, congrArg NodeSettings.y hsettings⟩
      connections := by
        intro pin v hv
        rcases (tidy_refresh _).connected name n hn pin v hv with rfl | ⟨channel, -, hne, rfl⟩
        · exact ⟨nilName, rfl⟩
        · refine ⟨channel, ?_⟩
          simp [Node.settledConnection, Json.isBlank, hne] }
  channel := by
    intro channel c hc
    obtain ⟨r, -, hcapacity⟩ := exists_record_of_channel hc
    exact ⟨r.capacity, hcapacity⟩

/-! ### Reading what was written -/

/-- What is found in the place of the coordinates of a graph when it was written. -/
def lostCoordinates (g : Graph) : List Fault :=
  NodeSettings.lostOfNodes (g.nodes.map fun _ n ↦ n.settings)

/-- A coordinate is lost exactly if it is an infinity or no number. -/
theorem lostCoordinate_eq_nil_iff {key : String} {v : Json} :
    lostCoordinate key v = [] ↔ ∀ x, v = .float x → x.isFinite = true := by
  unfold lostCoordinate
  cases v with
  | float x => simp
  | _ => simp

/-- Nothing is lost exactly if all coordinates are finite. -/
theorem lostCoordinates_eq_nil_iff : g.lostCoordinates = [] ↔ ∀ name n, g.nodes.get? name = some n →
    ∀ x, n.settings.x = .float x ∨ n.settings.y = .float x → x.isFinite = true := by
  have hnode (n : Node) : n.settings.lostCoordinates = [] ↔
      ∀ x, n.settings.x = .float x ∨ n.settings.y = .float x → x.isFinite = true := by
    rw [NodeSettings.lostCoordinates, List.append_eq_nil_iff, lostCoordinate_eq_nil_iff,
      lostCoordinate_eq_nil_iff, ← forall_and]
    simp only [or_imp]
  simp only [← hnode, OrderedMap.get?_eq_some_iff]
  rw [lostCoordinates, NodeSettings.lostOfNodes, OrderedMap.map, List.flatMap_map,
    List.flatMap_eq_nil_iff]
  simp only [List.map_eq_nil_iff, Prod.forall]

/-- What is stored of a graph that a document describes. -/
theorem exists_toDocument_ofDocument (h : d.Readable) :
    ∃ d', (ofDocument d).toDocument = .ok d' ∧ d'.Readable ∧
      ofDocument d' = (ofDocument d).cacheUnconnected ∧
      d'.lostCoordinates = (ofDocument d).lostCoordinates := by
  obtain ⟨d', hd', hload, hnodeKeys, hchannelKeys, hnode, hchannel⟩ :=
    (storable_ofDocument d).exists_toDocument
  refine ⟨d', hd', ⟨fun r' hr' ↦ ?_, fun c' hc' ↦ ?_⟩, ?_, ?_⟩
  · obtain ⟨name, hr'⟩ := OrderedMap.exists_get?_of_mem_values hr'
    obtain ⟨n, hn⟩ := OrderedMap.exists_get?_of_keys_eq hnodeKeys hr'
    obtain ⟨r, hr, hpart, hsettings⟩ := exists_record_of_node hn
    obtain ⟨_, hstored, heq⟩ := hnode name n hn
    obtain rfl := Option.some.inj (hr'.symm.trans hstored)
    refine (h.node r (OrderedMap.mem_values_of_get? hr)).of_eq ?_ ?_
    · exact (congrArg Node.part heq).trans hpart
    · exact (congrArg Node.settings heq).trans hsettings
  · obtain ⟨channel, hc'⟩ := OrderedMap.exists_get?_of_mem_values hc'
    obtain ⟨c, hc⟩ := OrderedMap.exists_get?_of_keys_eq hchannelKeys hc'
    obtain ⟨r, hr, hcapacity⟩ := exists_record_of_channel hc
    obtain ⟨_, hstored, heq⟩ := hchannel channel c hc
    obtain rfl := Option.some.inj (hc'.symm.trans hstored)
    have hsame : (Json.int c'.capacity) = .int r.capacity :=
      (congrArg Channel.capacity heq).trans hcapacity
    rw [Int.ofNat.inj (Json.int.inj hsame)]
    exact h.channel r (OrderedMap.mem_values_of_get? hr)
  · -- caches of a graph from a document are current, so rebuilding only adds unconnected pins
    rw [hload, ← refresh_clearTypes, clearTypes_ofDocument]
    exact (tidy_refresh _).refresh_eq fun _ _ ↦ le_size_of_refresh
  · refine congrArg NodeSettings.lostOfNodes (OrderedMap.map_eq_map hnodeKeys fun name n hn ↦ ?_)
    obtain ⟨r, hr, heq⟩ := hnode name n hn
    exact ⟨r, hr, congrArg Node.settings heq⟩

namespace Loaded

/-- A loaded graph is that of a document whose numbers can be read. -/
theorem exists_readable (h : g.Loaded) : ∃ d : Document, d.Readable ∧ g = ofDocument d := by
  obtain ⟨text, h⟩ | ⟨bytes, h⟩ := h
  · obtain ⟨d, hd, rfl⟩ := Checked.map_eq_ok_iff.1 h
    exact ⟨d, Document.readable_of_ofText hd, rfl⟩
  · obtain ⟨d, hd, rfl⟩ := Checked.map_eq_ok_iff.1 h
    unfold Document.ofBytes at hd
    split at hd
    · cases hd
    · exact ⟨d, Document.readable_of_ofText hd, rfl⟩

/-- The text that is written for a loaded graph, and what it is read as. -/
theorem exists_written (h : g.Loaded) (layout : Json.Layout) : ∃ text,
    g.written layout = .ok text ∧
      ofText text = Checked.andCheck (.ok g.cacheUnconnected) g.lostCoordinates := by
  obtain ⟨d, hd, rfl⟩ := h.exists_readable
  obtain ⟨d', hd', hreadable, hload, hlost⟩ := exists_toDocument_ofDocument hd
  refine ⟨d'.written layout, ?_, ?_⟩
  · rw [written, hd']
    rfl
  · rw [ofText, hreadable.ofText_written, Checked.map_andCheck, hload, hlost]

/-- In every layout a loaded graph is written. If its coordinates are finite, the text is read as
the graph again, up to the cache of a channel that is named like no channel; otherwise the text is
refused for the coordinates that are not, which were written as null. -/
theorem ofText_written_cases (h : g.Loaded) (layout : Json.Layout) : ∃ text,
    g.written layout = .ok text ∧
      ((∀ name n, g.nodes.get? name = some n →
          ∀ x, n.settings.x = .float x ∨ n.settings.y = .float x → x.isFinite = true) →
        ofText text = .ok g.cacheUnconnected ∧ (nilName ∉ g.channels → ofText text = .ok g)) ∧
      ((∃ name n, g.nodes.get? name = some n ∧
          ∃ x, (n.settings.x = .float x ∨ n.settings.y = .float x) ∧ x.isFinite = false) →
        ofText text = .error g.lostCoordinates) := by
  obtain ⟨text, hwritten, hread⟩ := h.exists_written layout
  refine ⟨text, hwritten, fun hfinite ↦ ?_, ?_⟩
  · rw [lostCoordinates_eq_nil_iff.2 hfinite] at hread
    refine ⟨hread, fun hnil ↦ ?_⟩
    rw [cacheUnconnected_eq hnil] at hread
    exact hread
  · rintro ⟨name, n, hn, x, hx, hinfinite⟩
    have hlost : g.lostCoordinates ≠ [] := by
      intro hnone
      have hfinite := lostCoordinates_eq_nil_iff.1 hnone name n hn x hx
      rw [hinfinite] at hfinite
      cases hfinite
    rw [hread, Checked.andCheck_eq_error hlost]

end Loaded

/-! ### A coordinate that is not finite -/

/-- A document with an unslicer whose first coordinate is too large for a floating-point number. -/
def overflowingText : String :=
  "\x7b\"nodes\":\x7b\"n\":\x7b\"part_type\":\"unslicer\",\"x\":1e999\x7d\x7d\x7d"

/-- The graph of that document. -/
def overflowing : Graph where
  nodes := .ofList [("n", {
    part := .unslicer
    connections := .ofList [("input", noConnection), ("output", noConnection)]
    settings := { x := .float (.infinity false) } })]

/-- The number is too large for a float, and is read as an infinity. -/
theorem ofText?_overflowingText : Json.ofText? Json.depthLimit overflowingText = some (.object [
    ("nodes", .object [("n", .object [("part_type", .string "unslicer"),
      ("x", .float (.infinity false))])])]) := by
  have hnumber : ∀ rest, (Json.valueAt 197 ("1e999".toList ++ '\x7d' :: rest)).toOption =
      some (.float (.infinity false), '\x7d' :: rest) := by
    intro rest
    have hread : Json.number? false ("1e999".toList ++ '\x7d' :: rest) =
        some (.float (.ofDecimal false 1 999), '\x7d' :: rest) := rfl
    have hlarge : Binary64.ofDecimal false 1 999 = .infinity false := rfl
    rw [hlarge] at hread
    exact Json.word_eq (Json.word?_of_number? hread) (by simp)
  have hnode : ∀ rest, (Json.valueAt 198
      ("\x7b\"part_type\":\"unslicer\",\"x\":1e999\x7d".toList ++ rest)).toOption =
        some (.object [("part_type", .string "unslicer"), ("x", .float (.infinity false))],
          rest) := by
    have hfirst : Json.IsPlain "part_type" := by decide
    have hvalue : Json.IsPlain "unslicer" := by decide
    have hsecond : Json.IsPlain "x" := by decide
    exact fun rest ↦ Json.object_eq (Json.entriesAt_more (Json.stringBody_eq hfirst _) rfl
      (Json.string_eq (Json.stringBody_eq hvalue _)) rfl
        (Json.entriesAt_last (Json.stringBody_eq hsecond _) rfl (hnumber _) rfl))
  have hnodes : ∀ rest, (Json.valueAt 199
      ("\x7b\"n\":\x7b\"part_type\":\"unslicer\",\"x\":1e999\x7d\x7d".toList ++ rest)).toOption =
        some (.object [("n", .object [("part_type", .string "unslicer"),
          ("x", .float (.infinity false))])], rest) := by
    have hkey : Json.IsPlain "n" := by decide
    exact fun rest ↦
      Json.object_eq (Json.entriesAt_last (Json.stringBody_eq hkey _) rfl (hnode _) rfl)
  have hkey : Json.IsPlain "nodes" := by decide
  exact Json.ofText?_eq_some (Json.object_eq
    (Json.entriesAt_last (Json.stringBody_eq hkey _) rfl (hnodes _) rfl)) rfl

/-- The document is loaded without a fault. -/
theorem ofText_overflowingText : ofText overflowingText = .ok overflowing :=
  ofText_eq_ok ofText?_overflowingText (by decide +kernel)

/-- The graph with an infinite coordinate is one that documents give. -/
theorem loaded_overflowing : overflowing.Loaded :=
  .inl ⟨overflowingText, ofText_overflowingText⟩

/-- Its text would have no number for the coordinate. -/
theorem lostCoordinates_overflowing :
    overflowing.lostCoordinates = [⟨[.key "nodes", .key "n", .key "x"], .notFloat⟩] := by
  decide +kernel

/-- The text of this graph is refused, that of another one is read. -/
theorem Loaded.ofText_written_cases_overflowing :
    (overflowing.Loaded ∧ ∃ text, overflowing.written .compact = .ok text ∧
      ofText text = .error [⟨[.key "nodes", .key "n", .key "x"], .notFloat⟩]) ∧
    nilNamed.Loaded ∧ ∃ text, nilNamed.written .compact = .ok text ∧
      ofText text = .ok nilNamed.cacheUnconnected := by
  obtain ⟨text, hwritten, -, hlost⟩ := loaded_overflowing.ofText_written_cases .compact
  obtain ⟨text', hwritten', hfinite, -⟩ := loaded_nilNamed.ofText_written_cases .compact
  have hx : ∃ n, overflowing.nodes.get? "n" = some n ∧ n.settings.x = .float (.infinity false) :=
    ⟨_, rfl, rfl⟩
  obtain ⟨n, hn, hx⟩ := hx
  have hnone : nilNamed.lostCoordinates = [] := by decide +kernel
  refine ⟨⟨loaded_overflowing, text, hwritten, ?_⟩, loaded_nilNamed, text', hwritten',
    (hfinite (lostCoordinates_eq_nil_iff.1 hnone)).1⟩
  rw [← lostCoordinates_overflowing]
  exact hlost ⟨"n", n, hn, .infinity false, .inl hx, rfl⟩

/-- Not every text that is written for a loaded graph can be read. -/
theorem overflowing_not_read_again : ∃ g text, ofText overflowingText = .ok g ∧
    g.written .compact = .ok text ∧ ¬∃ g', ofText text = .ok g' := by
  obtain ⟨text, hwritten, hread⟩ := loaded_overflowing.exists_written .compact
  refine ⟨overflowing, text, ofText_overflowingText, hwritten, ?_⟩
  rintro ⟨g', hread'⟩
  rw [lostCoordinates_overflowing] at hread
  cases hread.symm.trans hread'

end Graph

end ChannelGraph
