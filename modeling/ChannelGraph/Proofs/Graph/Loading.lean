import ChannelGraph.Document.Conversion
import ChannelGraph.Proofs.Graph.Editing
import ChannelGraph.Proofs.Json.Reading

/-!
# Inferring a graph that was loaded

Loading ends with a rebuilding, whatever the document says. So the wiring of a loaded graph is tidy
(`Loaded.tidy`), and an inference finds nothing wrong with the connections and the caches of the
channels: it succeeds or finds an incompatibility.

A channel that is named like no channel is the exception. Pins that are connected to nothing are
cached for it, so it is not taken away, but to the inference they are not connected to it: no
inference can succeed as long as the channel is there (`Tidy.not_solved`).
-/

namespace ChannelGraph

namespace Graph

variable {g : Graph} {pin : PinRef} {c : Channel} {default : TypeExpr}

/-! ### Inference where the wiring is tidy -/

namespace Tidy

/-- An inference stops because types are incompatible, or at a pin in the cache of the channel that
is named like no channel. -/
theorem fault_cases (h : g.Tidy) {f : InferenceFault} (hf : Pass.Justified g.clearTypes f) :
    (∃ channel pin conflict message, f = .incompatible channel pin conflict message) ∨
      nilName ∈ g.channels ∧ ∃ pin, f = .unwiredPin nilName pin := by
  cases hf with
  | incompatible _ _ conflict message => exact .inl ⟨_, _, conflict, message, rfl⟩
  | @unwired channel pin hpin hnone =>
    have hmem := mem_channels_clearTypes.1 (mem_channels_of_mem_cachedPins hpin)
    by_cases hnil : channel = nilName
    · subst hnil
      exact .inr ⟨hmem, pin, rfl⟩
    -- any other cached pin is connected to the channel, so it has a type at the start
    obtain ⟨c', hc', hpin⟩ := mem_cachedPins.1 hpin
    rw [get?_channels_clearTypes] at hc'
    obtain ⟨c, hc, rfl⟩ := Option.map_eq_some_iff.1 hc'
    obtain ⟨e, hwired⟩ := (h.names_iff_exists_wired hnil).1 (h.names channel c hc pin hpin)
    have hstart : (Pass.start g.clearTypes).pinType? pin = some e :=
      Pass.pinType?_start_iff.2
        ⟨channel, mem_channels_clearTypes.2 hmem, wired_clearTypes_iff.2 hwired⟩
    rw [hnone] at hstart
    cases hstart

/-- A pin that names no channel is not connected to any. -/
theorem not_wired_of_names_nil (hpin : g.Names pin nilName) (channel : String) (e : TypeExpr) :
    ¬g.Wired channel pin e := by
  rintro ⟨n, -, hn, -, hconnected, -⟩
  obtain ⟨hconnection, -, hnil⟩ := Node.connectedChannel_eq_some_iff.1 hconnected
  rw [Node.connection, (names_iff_get? hn).1 hpin] at hconnection
  exact hnil (Json.string.inj hconnection).symm

/-- No inference comes to its end if a pin is cached for the channel that is named like no
channel. -/
theorem not_solved (h : g.Tidy) (hc : g.channels.get? nilName = some c) (hpin : pin ∈ c.pins)
    (p : Pass) : ¬Pass.Solved g.clearTypes p := by
  intro hsolved
  have hcached : pin ∈ g.clearTypes.cachedPins nilName := by
    refine mem_cachedPins.2 ⟨{ c with type := none }, ?_, hpin⟩
    rw [get?_channels_clearTypes, hc]
    rfl
  obtain ⟨_, e, -, hstart, -⟩ := hsolved.settled nilName pin hcached
  obtain ⟨channel, -, hwired⟩ := Pass.pinType?_start_iff.1 hstart
  exact not_wired_of_names_nil (h.names nilName c hc pin hpin) channel e
    (wired_clearTypes_iff.1 hwired)

end Tidy

/-! ### Loaded graphs -/

/-- A graph that was loaded from a JSON text or from the bytes of one. -/
def Loaded (g : Graph) : Prop :=
  (∃ text, ofText text = .ok g) ∨ ∃ bytes, ofBytes bytes = .ok g

/-- A graph that was loaded was rebuilt. -/
theorem exists_refresh_of_map {d : Checked Document} (h : d.map ofDocument = .ok g) :
    ∃ g₀ : Graph, g = g₀.refresh := by
  cases d with
  | error faults => cases h
  | ok d =>
    cases h
    exact ⟨_, rfl⟩

/-- A text is loaded as the graph that the value of the text describes. -/
theorem ofText_eq_ok {text : String} {v : Json} (hread : Json.ofText? Json.depthLimit text = some v)
    (hload : ((Document.check v).map ofDocument).toOption = some g) : ofText text = .ok g := by
  rw [ofText, Document.ofText, hread]
  dsimp only
  cases hgraph : (Document.check v).map ofDocument with
  | error faults =>
    rw [hgraph] at hload
    cases hload
  | ok g' =>
    rw [hgraph] at hload
    exact congrArg Except.ok (Option.some.inj hload)

namespace Loaded

/-- A loaded graph was rebuilt. -/
theorem exists_refresh (h : g.Loaded) : ∃ g₀ : Graph, g = g₀.refresh := by
  obtain ⟨_, h⟩ | ⟨_, h⟩ := h
  · exact exists_refresh_of_map h
  · exact exists_refresh_of_map h

/-- The wiring of a graph that was loaded is tidy. -/
theorem tidy (h : g.Loaded) : g.Tidy := by
  obtain ⟨g₀, rfl⟩ := h.exists_refresh
  exact g₀.tidy_refresh

/-- A pin is cached for every channel of a loaded graph. -/
theorem exists_mem_pins (h : g.Loaded) {channel : String} (hc : g.channels.get? channel = some c) :
    ∃ pin, pin ∈ c.pins := by
  obtain ⟨g₀, rfl⟩ := h.exists_refresh
  exact List.exists_mem_of_length_pos (Nat.lt_of_lt_of_le Nat.two_pos (le_size_of_refresh hc))

/-- An inference on a loaded graph, with a default that can be read from a text, succeeds or stops
because types are incompatible, and then leaves no types, unless the graph has a channel that is
named like no channel. With such a channel it never succeeds: it stops because types are
incompatible or because pins that are connected to nothing are in the cache of that channel. -/
theorem tryInfer_cases {scope text : String} (h : g.Loaded)
    (hdefault : TypeExpr.ofText scope text = .ok default) :
    (nilName ∉ g.channels → (∃ g', g.tryInfer default = .ok g') ∨
      ∃ channel pin conflict message, g.tryInfer default =
        .error ⟨.incompatible channel pin conflict message, g.clearTypes⟩) ∧
    (nilName ∈ g.channels → (∃ channel pin conflict message, g.tryInfer default =
        .error ⟨.incompatible channel pin conflict message, g.clearTypes⟩) ∨
      ∃ pin, g.tryInfer default = .error ⟨.unwiredPin nilName pin, g.clearTypes⟩) := by
  rw [h.tidy.tryInfer_eq]
  rcases g.infer_cases (TypeExpr.ofText_isWritable hdefault) with ⟨f, hrun, hf⟩ | ⟨p, hp, hrun⟩
  · rw [hrun]
    rcases h.tidy.fault_cases hf with ⟨channel, pin, conflict, message, rfl⟩ | ⟨hnil, pin, rfl⟩
    · exact ⟨fun _ ↦ .inr ⟨_, _, _, _, rfl⟩, fun _ ↦ .inl ⟨_, _, _, _, rfl⟩⟩
    · exact ⟨fun hnot ↦ absurd hnil hnot, fun _ ↦ .inr ⟨pin, rfl⟩⟩
  · refine ⟨fun _ ↦ .inl ⟨_, hrun⟩, fun hnil ↦ ?_⟩
    obtain ⟨c, hc⟩ := OrderedMap.mem_iff_exists.1 hnil
    obtain ⟨pin, hpin⟩ := h.exists_mem_pins hc
    exact absurd hp (h.tidy.not_solved hc hpin p)

end Loaded

/-! ### A channel that is named like no channel -/

/-- A document with an unslicer that is connected to nothing and a channel named `nil`. -/
def nilNamedText : String :=
  "\x7b\"nodes\":\x7b\"only\":\x7b\"part_type\":\"unslicer\"\x7d\x7d," ++
    "\"channels\":\x7b\"nil\":\x7b\x7d\x7d\x7d"

/-- The graph of that document: both pins of the unslicer are cached for the channel. -/
def nilNamed : Graph where
  nodes := .ofList [("only", {
    part := .unslicer
    connections := .ofList [("input", noConnection), ("output", noConnection)] })]
  channels := .ofList [
    ("nil", { pins := [⟨"only", "input"⟩, ⟨"only", "output"⟩].foldl PinSet.insert ∅ })]

theorem ofText?_nilNamedText : Json.ofText? Json.depthLimit nilNamedText = some (.object [
    ("nodes", .object [("only", .object [("part_type", .string "unslicer")])]),
    ("channels", .object [("nil", .object [])])]) := by
  -- from the inside out, each value in front of any rest
  have hnode : ∀ rest, (Json.valueAt 198
      ("\x7b\"part_type\":\"unslicer\"\x7d".toList ++ rest)).toOption =
        some (.object [("part_type", .string "unslicer")], rest) := by
    have hkey : Json.IsPlain "part_type" := by decide
    have hvalue : Json.IsPlain "unslicer" := by decide
    exact fun rest ↦ Json.object_eq (Json.entriesAt_last (Json.stringBody_eq hkey _) rfl
      (Json.string_eq (Json.stringBody_eq hvalue _)) rfl)
  have hnodes : ∀ rest, (Json.valueAt 199
      ("\x7b\"only\":\x7b\"part_type\":\"unslicer\"\x7d\x7d".toList ++ rest)).toOption =
        some (.object [("only", .object [("part_type", .string "unslicer")])], rest) := by
    have hkey : Json.IsPlain "only" := by decide
    exact fun rest ↦
      Json.object_eq (Json.entriesAt_last (Json.stringBody_eq hkey _) rfl (hnode _) rfl)
  have hchannels : ∀ rest, (Json.valueAt 199 ("\x7b\"nil\":\x7b\x7d\x7d".toList ++ rest)).toOption =
      some (.object [("nil", .object [])], rest) := by
    have hkey : Json.IsPlain "nil" := by decide
    exact fun rest ↦ Json.object_eq
      (Json.entriesAt_last (Json.stringBody_eq hkey _) rfl (Json.object_nil_eq rfl) rfl)
  have hfirst : Json.IsPlain "nodes" := by decide
  have hsecond : Json.IsPlain "channels" := by decide
  exact Json.ofText?_eq_some (Json.object_eq
    (Json.entriesAt_more (Json.stringBody_eq hfirst _) rfl (hnodes _) rfl
      (Json.entriesAt_last (Json.stringBody_eq hsecond _) rfl (hchannels _) rfl))) rfl

theorem ofText_nilNamedText : ofText nilNamedText = .ok nilNamed :=
  ofText_eq_ok ofText?_nilNamedText (by decide +kernel)

/-- The graph with a channel named like no channel is one that documents give. -/
theorem loaded_nilNamed : nilNamed.Loaded :=
  .inl ⟨nilNamedText, ofText_nilNamedText⟩

/-- An unconnected pin in the cache of the channel `nil` stops the inference. -/
theorem tryInfer_nilNamed : nilNamed.tryInfer (.name "int") =
    .error ⟨.unwiredPin nilName ⟨"only", "input"⟩, nilNamed.clearTypes⟩ := by
  have hcause : (nilNamed.tryInfer (.name "int")).mapError Interrupted.cause =
      .error (.unwiredPin nilName ⟨"only", "input"⟩) := by
    decide +kernel
  have hreached : stateAfter (nilNamed.tryInfer (.name "int")) = nilNamed.clearTypes := by
    decide +kernel
  cases hrun : nilNamed.tryInfer (.name "int") with
  | ok g =>
    rw [hrun] at hcause
    cases hcause
  | error i =>
    obtain ⟨cause, reached⟩ := i
    rw [hrun] at hcause hreached
    cases hcause
    cases hreached
    rfl

theorem Loaded.tryInfer_cases_nilNamed :
    nilNamed.Loaded ∧ TypeExpr.ofText "" "int" = .ok (.name "int") ∧
      nilName ∈ nilNamed.channels ∧ ∃ pin, nilNamed.tryInfer (.name "int") =
        .error ⟨.unwiredPin nilName pin, nilNamed.clearTypes⟩ := by
  have hnil : nilName ∈ nilNamed.channels := by decide +kernel
  refine ⟨loaded_nilNamed, TypeExpr.ofText_int, hnil, ?_⟩
  obtain ⟨-, hcases⟩ := loaded_nilNamed.tryInfer_cases TypeExpr.ofText_int
  obtain ⟨_, _, _, _, hrun⟩ | hrun := hcases hnil
  · cases tryInfer_nilNamed.symm.trans hrun
  · exact hrun

/-- Not every graph that loads can be inferred or blamed on incompatible types. -/
theorem ofText_nilNamedText_not_inferred :
    ∃ g default, ofText nilNamedText = .ok g ∧ TypeExpr.ofText "" "int" = .ok default ∧
      default.isConcrete ∧ (¬∃ g', g.tryInfer default = .ok g') ∧
      ¬∃ channel pin conflict message g', g.tryInfer default =
        .error ⟨.incompatible channel pin conflict message, g'⟩ := by
  refine ⟨nilNamed, .name "int", ofText_nilNamedText, TypeExpr.ofText_int, rfl, ?_, ?_⟩
  · rintro ⟨g', hrun⟩
    cases tryInfer_nilNamed.symm.trans hrun
  · rintro ⟨channel, pin, conflict, message, g', hrun⟩
    cases tryInfer_nilNamed.symm.trans hrun

end Graph

end ChannelGraph
