import ChannelGraph.Proofs.Graph.Rewiring
import ChannelGraph.Proofs.Inference.Blame
import ChannelGraph.Proofs.Inference.Duration
import ChannelGraph.Proofs.Inference.Separation

/-!
# Inference with stale caches

A cache may list pins that are not connected to its channel (`Graph.Stale`): the node is gone or
does not declare the pin any more, the pin was disconnected, or it was moved to another channel. An
inference looks a cached pin up among the pins that are connected to some channel, so the first
three stop it and the last one does not. It succeeds exactly if every cached pin is connected to an
existing channel, whichever that is, and the types of the pins in each cache can be made equal
(`tryInfer_stale`).

What it publishes then follows the caches: the type of a channel is that of every pin that it
caches, also of one that was moved. So the type of a moved pin need not be that of the channel that
it is connected to (`tryInfer_movedOutput`).
-/

namespace ChannelGraph

namespace Graph

variable {g : Graph} {channel : String} {pin : PinRef} {default : TypeExpr} {p : Pass}
  {σ : TypeParam → TypeExpr}

/-- A channel caches a pin that is not connected to it. -/
def Stale (g : Graph) (channel : String) (pin : PinRef) : Prop :=
  pin ∈ g.cachedPins channel ∧ ¬∃ e, g.Wired channel pin e

instance (g : Graph) (channel : String) (pin : PinRef) : Decidable (g.Stale channel pin) :=
  decidable_of_iff (pin ∈ g.cachedPins channel ∧ pin ∉ g.wiredTo channel) <| by
    rw [Stale, mem_wiredTo_iff]

instance (g : Graph) (pin : PinRef) : Decidable (pin ∈ g.connectedPins) :=
  decidable_of_iff (∃ channel ∈ g.channels.keys, pin ∈ g.wiredTo channel) <| by
    simp only [mem_wiredTo_iff]
    rfl

/-! ### What an inference finds of a cached pin -/

/-- The pins that have a type at the start are those that are connected to an existing channel. -/
theorem mem_connectedPins_iff :
    pin ∈ g.connectedPins ↔ ∃ e, (Pass.start g.clearTypes).pinType? pin = some e := by
  simp only [Pass.pinType?_start_iff, mem_channels_clearTypes, wired_clearTypes_iff]
  constructor
  · rintro ⟨channel, hmem, e, hwired⟩
    exact ⟨e, channel, hmem, hwired⟩
  · rintro ⟨e, channel, hmem, hwired⟩
    exact ⟨channel, hmem, e, hwired⟩

/-- A cached pin that is not stale is connected. -/
theorem mem_connectedPins_of_not_stale (hpin : pin ∈ g.cachedPins channel)
    (h : ¬g.Stale channel pin) : pin ∈ g.connectedPins :=
  ⟨channel, mem_channels_of_mem_cachedPins hpin, of_not_not fun hnone ↦ h ⟨hpin, hnone⟩⟩

theorem cachedSolution_clearTypes_iff : g.clearTypes.CachedSolution σ ↔ g.CachedSolution σ := by
  simp only [CachedSolution, cachedPins_clearTypes, Pass.pinType?_start_iff,
    mem_channels_clearTypes, wired_clearTypes_iff]

/-- At the end of the visits every cached pin was found. -/
theorem mem_connectedPins_of_solved (h : Pass.Solved g.clearTypes p)
    (hpin : pin ∈ g.cachedPins channel) : pin ∈ g.connectedPins := by
  rw [← cachedPins_clearTypes] at hpin
  obtain ⟨_, e, -, hstart, -⟩ := h.settled channel pin hpin
  exact mem_connectedPins_iff.2 ⟨e, hstart⟩

/-- Why an inference stops before any type is written. -/
inductive Stops (g : Graph) : InferenceFault → Prop
  /-- A connection cannot be looked up. -/
  | badConnection {given : Json} (h : ¬∀ name n, g.nodes.get? name = some n →
      ∀ pin ∈ n.pins.keys, (n.connection pin).isContainer = false) : Stops g (.badConnection given)
  /-- A cached pin is not connected to any channel. -/
  | unwired {channel : String} {pin : PinRef} (h : g.Stale channel pin)
      (hnone : pin ∉ g.connectedPins) : Stops g (.unwiredPin channel pin)
  /-- Nothing makes the types equal of the pins in each cache. -/
  | incompatible {channel : String} {pin : PinRef} {conflict : Conflict} {message : String}
      (h : ¬∃ σ, g.CachedSolution σ) : Stops g (.incompatible channel pin conflict message)

theorem stops_of_justified {f : InferenceFault} (h : Pass.Justified g.clearTypes f) :
    g.Stops f := by
  cases h with
  | @unwired channel pin hpin hnone =>
    rw [cachedPins_clearTypes] at hpin
    have hpin' : pin ∉ g.connectedPins := by
      rw [mem_connectedPins_iff, hnone]
      rintro ⟨e, he⟩
      cases he
    exact .unwired (of_not_not fun h ↦ hpin' (mem_connectedPins_of_not_stale hpin h)) hpin'
  | incompatible _ hnone =>
    exact .incompatible fun ⟨σ, hσ⟩ ↦ hnone σ (cachedSolution_clearTypes_iff.2 hσ)

/-- An inference stops for one of three reasons, or its visits come to their end. -/
theorem tryInfer_stops_or_commits (g : Graph) (default : TypeExpr) :
    (∃ f, g.tryInfer default = .error ⟨f, g.clearTypes⟩ ∧ g.Stops f) ∨
      g.firstContainer? Node.connection = none ∧
        ∃ p, Pass.Solved g.clearTypes p ∧ g.tryInfer default = p.commit default g.clearTypes := by
  rw [tryInfer]
  cases hfirst : g.firstContainer? Node.connection with
  | some bad =>
    refine .inl ⟨_, rfl, .badConnection fun hnone ↦ ?_⟩
    rw [firstContainer?_eq_none_iff.2 hnone] at hfirst
    cases hfirst
  | none =>
    rcases g.infer_eq_error_or_commit default with ⟨f, hrun, hf⟩ | hcommit
    · exact .inl ⟨f, hrun, stops_of_justified hf⟩
    · exact .inr ⟨rfl, hcommit⟩

/-! ### What is published for a cached pin -/

/-- A channel and a pin have the same type. -/
def SameType (g : Graph) (channel : String) (pin : PinRef) : Prop :=
  ∃ c n t, g.channels.get? channel = some c ∧ c.type = some t ∧
    g.nodes.get? pin.node = some n ∧ n.pinTypes.get? pin.pin = some t

theorem sameType_published (h : Pass.Solved g p) (hpin : pin ∈ g.cachedPins channel) :
    (p.published default g).SameType channel pin := by
  obtain ⟨_, e, -, hstart, -⟩ := h.settled channel pin hpin
  obtain ⟨channel', hmem', hwired⟩ := Pass.pinType?_start_iff.1 hstart
  obtain ⟨n, -, hn, -⟩ := id hwired
  obtain ⟨c, hc⟩ := OrderedMap.mem_iff_exists.1 (mem_channels_of_mem_cachedPins hpin)
  refine ⟨p.publishedChannel default channel c, p.publishedNode default pin.node n,
    p.finalType default e, ?_, type_publishedChannel_of_cached h hpin hstart c, ?_,
    (get?_pinTypes_publishedNode_iff h hn).2 ⟨channel', hmem', e, hwired, rfl⟩⟩
  · rw [Pass.get?_channels_published, hc]
    rfl
  · rw [Pass.get?_nodes_published, hn]
    rfl

/-- A cached pin that is connected to no channel stops every inference. With a default that can be
read from a text an inference succeeds exactly if the connections of pins can be looked up, no stale
pin is one that is connected to no channel, and the types of the pins in each cache can be made
equal. A channel then has the type of every pin that it caches, stale or not. -/
theorem tryInfer_stale (g : Graph) :
    (∀ default channel pin, g.Stale channel pin → pin ∉ g.connectedPins →
      ∃ f, g.tryInfer default = .error ⟨f, g.clearTypes⟩ ∧ g.Stops f) ∧
    (∀ scope text default, TypeExpr.ofText scope text = .ok default →
      ((∃ g', g.tryInfer default = .ok g') ↔
        (∀ name n, g.nodes.get? name = some n →
          ∀ pin ∈ n.pins.keys, (n.connection pin).isContainer = false) ∧
        (∀ channel pin, g.Stale channel pin → pin ∈ g.connectedPins) ∧
          ∃ σ, g.CachedSolution σ)) ∧
    ∀ default g', g.tryInfer default = .ok g' →
      ∀ channel, ∀ pin ∈ g.cachedPins channel, g'.SameType channel pin := by
  refine ⟨fun default channel pin hstale hnone ↦ ?_, fun scope text default hdefault ↦ ?_,
    fun default g' hrun channel pin hpin ↦ ?_⟩
  · rcases g.tryInfer_stops_or_commits default with hstop | ⟨-, p, hp, -⟩
    · exact hstop
    · exact absurd (mem_connectedPins_of_solved hp hstale.1) hnone
  · rcases g.tryInfer_stops_or_commits default with ⟨f, hrun, hf⟩ | ⟨hfirst, p, hp, hrun⟩
    · -- each way to stop goes against one of the conditions
      refine iff_of_false ?_ ?_
      · rintro ⟨g', hok⟩
        rw [hrun] at hok
        cases hok
      · rintro ⟨hlookup, hconnected, hsolution⟩
        cases hf with
        | badConnection h => exact h hlookup
        | unwired h hnone => exact hnone (hconnected _ _ h)
        | incompatible h => exact h hsolution
    · have hcommit := Pass.commit_eq hp.toSound (TypeExpr.ofText_isWritable hdefault)
      exact iff_of_true ⟨_, hrun.trans hcommit⟩ ⟨firstContainer?_eq_none_iff.1 hfirst,
        fun channel pin hstale ↦ mem_connectedPins_of_solved hp hstale.1,
        _, cachedSolution_clearTypes_iff.1 hp.cachedSolution⟩
  · rcases g.tryInfer_stops_or_commits default with ⟨f, hstop, -⟩ | ⟨-, p, hp, hcommit⟩
    · rw [hstop] at hrun
      cases hrun
    · obtain ⟨-, rfl⟩ := (Pass.commit_eq_ok_iff hp.toSound).1 (hcommit.symm.trans hrun)
      exact sameType_published hp ((cachedPins_clearTypes g channel).symm ▸ hpin)

/-- In `movedOutput` the pin that was moved to the inner channel gets the type of the outer one. -/
theorem exists_tryInfer_movedOutput : ∃ g', movedOutput.tryInfer (.name "int") = .ok g' ∧
    (g'.channels.get? "inner").bind Channel.type = some (.compound "[]" [.name "int"]) ∧
    ((g'.nodes.get? "source").bind fun n ↦ n.pinTypes.get? "output") =
      some (.compound "[]" [.compound "[]" [.name "int"]]) := by
  have hrun : ((movedOutput.tryInfer (.name "int")).toOption.map fun g' ↦
      ((g'.channels.get? "inner").bind Channel.type,
        (g'.nodes.get? "source").bind fun n ↦ n.pinTypes.get? "output")) =
      some (some (.compound "[]" [.name "int"]),
        some (.compound "[]" [.compound "[]" [.name "int"]])) := by
    cbv
  cases hinfer : movedOutput.tryInfer (.name "int") with
  | error i =>
    rw [hinfer] at hrun
    cases hrun
  | ok g' =>
    rw [hinfer] at hrun
    exact ⟨g', rfl, Prod.mk.inj (Option.some.inj hrun)⟩

/-- In `inputDropped` the inner channel caches a pin that is connected to nothing; in `movedOutput`
the outer one caches a pin that was moved to the inner one. -/
theorem tryInfer_stale_inputDropped :
    inputDropped.Stale "inner" ⟨"second", "input"⟩ ∧
      ⟨"second", "input"⟩ ∉ inputDropped.connectedPins ∧
      (∃ f, inputDropped.tryInfer (.name "int") = .error ⟨f, inputDropped.clearTypes⟩ ∧
        inputDropped.Stops f) ∧
      TypeExpr.ofText "" "int" = .ok (.name "int") ∧
      (¬∃ g', inputDropped.tryInfer (.name "int") = .ok g') ∧
      movedOutput.Stale "outer" ⟨"source", "output"⟩ ∧
      ∃ g', movedOutput.tryInfer (.name "int") = .ok g' ∧
        g'.SameType "outer" ⟨"source", "output"⟩ := by
  have hstale : inputDropped.Stale "inner" ⟨"second", "input"⟩ := by decide +kernel
  have hnone : ⟨"second", "input"⟩ ∉ inputDropped.connectedPins := by decide +kernel
  have hmoved : movedOutput.Stale "outer" ⟨"source", "output"⟩ := by decide +kernel
  obtain ⟨hstop, hiff, -⟩ := tryInfer_stale inputDropped
  obtain ⟨-, -, hsame⟩ := tryInfer_stale movedOutput
  obtain ⟨g', hinfer, -⟩ := exists_tryInfer_movedOutput
  refine ⟨hstale, hnone, hstop _ _ _ hstale hnone, TypeExpr.ofText_int, fun hok ↦ ?_, hmoved,
    g', hinfer, hsame _ _ hinfer _ _ hmoved.1⟩
  exact hnone (((hiff _ _ _ TypeExpr.ofText_int).1 hok).2.1 _ _ hstale)

/-- A stale pin that was moved to another channel does not stop an inference, which then gives the
pin a type that is not the one of its channel. -/
theorem tryInfer_movedOutput :
    movedOutput.Stale "outer" ⟨"source", "output"⟩ ∧
      (∃ e, movedOutput.Wired "inner" ⟨"source", "output"⟩ e) ∧
      ∃ g', movedOutput.tryInfer (.name "int") = .ok g' ∧
        ¬g'.SameType "inner" ⟨"source", "output"⟩ := by
  have hstale : movedOutput.Stale "outer" ⟨"source", "output"⟩ := by decide +kernel
  have hwired : ⟨"source", "output"⟩ ∈ movedOutput.wiredTo "inner" := by decide +kernel
  obtain ⟨g', hinfer, hinner, hsource⟩ := exists_tryInfer_movedOutput
  refine ⟨hstale, mem_wiredTo_iff.1 hwired, g', hinfer, ?_⟩
  rintro ⟨c, n, t, hc, ht, hn, ht'⟩
  rw [hc, Option.bind_some, ht] at hinner
  rw [hn, Option.bind_some, ht', hinner] at hsource
  cases hsource

end Graph

end ChannelGraph
