import ChannelGraph.Proofs.Inference.Principal

/-!
# Published types are coherent

The types of channels, of pins and of parameters are written by three loops, from types that were
last instantiated at different times. They fit together nevertheless, because all of them are
final types: for every node there is one choice of its parameters from which its texts, the types
of its pins and the types of the channels at its pins result (`infer_coherent`). Parameters that
only occur at unconnected pins are part of that choice.
-/

namespace ChannelGraph

namespace Graph

variable {g g' : Graph} {default : TypeExpr}

/-- The published types of a node fit its declaration, for one choice of its type parameters, and
the channels that its pins are connected to. -/
structure Coherent (g : Graph) (n : Node) (θ : String → TypeExpr) : Prop where
  /-- Every parameter is given a concrete type. -/
  concrete : ∀ i, (θ i).isConcrete
  /-- There is a text for every identifier in the declared types of all pins, in order of first
  appearance. -/
  typeParams : n.typeParams.keys = n.declaredIdents
  /-- The texts are those of the types that are given. -/
  text : ∀ i text, n.typeParams.get? i = some text → (θ i).written = .ok text
  /-- There is a type for every declared pin that is connected to an existing channel. -/
  pins : n.pinTypes.keys =
    n.pins.keys.filter fun pin ↦ (n.connectedChannel pin).any (· ∈ g.channels)
  /-- The type of a pin is its declared type with the given types for the parameters. -/
  pinType : ∀ pin t, n.pinTypes.get? pin = some t → ∃ declared,
    n.pins.get? pin = some declared ∧ t = declared.type.tree.substitute fun q ↦ θ q.ident
  /-- The type of a pin is that of the channel that it is connected to. -/
  channelType : ∀ pin t channel, n.pinTypes.get? pin = some t →
    n.connectedChannel pin = some channel →
      ∃ c, g.channels.get? channel = some c ∧ c.type = some t

section Published

variable {p : Pass} {name : String} {n : Node}

/-- A pin that has a published type is connected, and the type is the final form of the declared
one. -/
theorem exists_wired_of_pinType (h : Pass.Solved g p) {pin : String} {t : TypeExpr}
    (ht : (p.publishedNode default name n).pinTypes.get? pin = some t) :
    ∃ channel ∈ g.channels, ∃ e, g.Wired channel ⟨name, pin⟩ e ∧ t = p.finalType default e := by
  have hget : ((((p.pinTypes.get? name).getD ∅).map fun _ e ↦ p.finalType default e).get? pin) =
      some t := ht
  rw [OrderedMap.get?_map, Option.map_eq_some_iff] at hget
  obtain ⟨t₀, ht₀, rfl⟩ := hget
  have hpin : p.pinType? ⟨name, pin⟩ = some t₀ := by
    cases htypes : p.pinTypes.get? name with
    | none => rw [htypes] at ht₀; cases ht₀
    | some types =>
      rw [htypes] at ht₀
      exact Option.bind_eq_some_iff.2 ⟨types, htypes, ht₀⟩
  obtain ⟨e, he⟩ := h.exists_start hpin
  obtain ⟨channel, hchannel, hwired⟩ := Pass.pinType?_start_iff.1 he
  exact ⟨channel, hchannel, e, hwired,
    Pass.finalType_congr h.acyclic default (h.entails_start hpin he)⟩

/-- The pins with published types are those with types at the start. -/
theorem keys_pinTypes_publishedNode (h : Pass.Solved g p) (hn : g.nodes.get? name = some n) :
    (p.publishedNode default name n).pinTypes.keys =
      n.pins.keys.filter fun pin ↦ (n.connectedChannel pin).any (· ∈ g.channels) := by
  have hstart : (Pass.start g).pinTypes.get? name =
      some (Pass.declaredTypes g.channels name n) := by
    show (g.nodes.map (Pass.declaredTypes g.channels)).get? name = _
    rw [OrderedMap.get?_map, hn]
    rfl
  have hkeys := h.pinKeys name
  rw [hstart] at hkeys
  obtain ⟨types, htypes, hkeys⟩ := Option.map_eq_some_iff.1 hkeys
  rw [Pass.publishedNode, htypes]
  show ((types.map _).keys) = _
  rw [OrderedMap.keys_map, hkeys, Pass.declaredTypes, OrderedMap.keys_map, OrderedMap.keys_filter,
    OrderedMap.keys, List.filter_map]
  rfl

/-- The published type of a pin is the final form of the declared one, for all pins that are
connected to a channel of the graph. -/
theorem get?_pinTypes_publishedNode_iff (h : Pass.Solved g p) (hn : g.nodes.get? name = some n)
    {pin : String} {t : TypeExpr} :
    (p.publishedNode default name n).pinTypes.get? pin = some t ↔
      ∃ channel ∈ g.channels, ∃ e, g.Wired channel ⟨name, pin⟩ e ∧ t = p.finalType default e := by
  refine ⟨exists_wired_of_pinType h, ?_⟩
  rintro ⟨channel, hchannel, e, hwired, rfl⟩
  obtain ⟨declared, hdeclared, hconnected, -⟩ := (wired_iff_of_get? hn).1 hwired
  have hmem : pin ∈ (p.publishedNode default name n).pinTypes := by
    rw [OrderedMap.mem_iff, keys_pinTypes_publishedNode h hn, List.mem_filter, hconnected]
    exact ⟨OrderedMap.mem_iff_exists.2 ⟨declared, hdeclared⟩, decide_eq_true hchannel⟩
  obtain ⟨t, ht⟩ := OrderedMap.mem_iff_exists.1 hmem
  obtain ⟨_, -, e', hwired', rfl⟩ := exists_wired_of_pinType h ht
  rw [ht, (hwired.unique hwired').2]

/-- What is published from the end of an inference is coherent at every node. -/
theorem coherent_published (hcurrent : g.CachesCurrent) (h : Pass.Solved g p)
    (hwritable : default.IsWritable) (hconcrete : default.isConcrete)
    (hn : g.nodes.get? name = some n) :
    (p.published default g).Coherent (p.publishedNode default name n)
      fun i ↦ p.finalType default (.param ⟨name, i⟩) := by
  obtain ⟨texts, htexts, hidents, htext⟩ :=
    Pass.exists_paramTexts h.acyclic (Pass.paramsWritable h.toSound hwritable name n)
  have htypeParams : (p.publishedNode default name n).typeParams = texts := by
    rw [Pass.publishedNode, htexts]
    rfl
  refine ⟨fun i ↦ p.isConcrete_finalType hconcrete _, ?_, ?_, ?_, fun pin t ht ↦ ?_,
    fun pin t channel ht hconnected ↦ ?_⟩
  · rw [htypeParams, hidents]
    rfl
  · rw [htypeParams]
    exact htext
  · rw [keys_pinTypes_publishedNode h hn]
    simp only [Pass.published, OrderedMap.mem_map]
    rfl
  · -- the final type of a pin is its declared type with the final types put in
    obtain ⟨_, -, e, hwired, rfl⟩ := exists_wired_of_pinType h ht
    obtain ⟨declared, hdeclared, -, rfl⟩ := (wired_iff_of_get? hn).1 hwired
    refine ⟨declared, hdeclared, ?_⟩
    rw [Pass.finalType_eq_substitute, DeclaredType.inScope, TypeExpr.inScope,
      TypeExpr.substitute_substitute]
    rfl
  · -- a channel is published with the final type of any of its pins
    obtain ⟨channel', hchannel, e, hwired, rfl⟩ := exists_wired_of_pinType h ht
    obtain ⟨_, -, hconnected', -⟩ := (wired_iff_of_get? hn).1 hwired
    obtain rfl := Option.some.inj (hconnected'.symm.trans hconnected)
    obtain ⟨c, hc⟩ := OrderedMap.mem_iff_exists.1 hchannel
    refine ⟨p.publishedChannel default channel' c, ?_, ?_⟩
    · rw [Pass.get?_channels_published, hc]
      rfl
    · exact type_publishedChannel_of_wired hcurrent h hchannel hwired c

end Published

theorem clearTypes_clearTypes (g : Graph) : g.clearTypes.clearTypes = g.clearTypes := by
  unfold clearTypes
  dsimp only
  rw [OrderedMap.map_map, OrderedMap.map_map]
  rfl

/-- For a graph with current caches and a concrete default that can be read from a text, a
successful inference changes nothing but the types. What it publishes for a node fits the
declaration of the node, for one choice of its type parameters, and the channels at its pins; and
the types of all channels and pins are concrete. -/
theorem infer_coherent {scope text : String} (hcurrent : g.CachesCurrent)
    (hdefault : TypeExpr.ofText scope text = .ok default) (hconcrete : default.isConcrete)
    (h : g.infer default = .ok g') :
    g'.clearTypes = g.clearTypes ∧
      (∀ name n, g'.nodes.get? name = some n → ∃ θ, g'.Coherent n θ) ∧
      (∀ channel c, g'.channels.get? channel = some c → ∃ t, c.type = some t ∧ t.isConcrete) ∧
      ∀ name n pin t, g'.nodes.get? name = some n → n.pinTypes.get? pin = some t →
        t.isConcrete := by
  have hwritable := TypeExpr.ofText_isWritable hdefault
  rcases g.infer_cases hwritable with ⟨f, hrun, -⟩ | ⟨p, hp, hrun⟩
  · rw [hrun] at h
    cases h
  rw [hrun] at h
  cases h
  -- the parameters of a node are chosen to be their final types
  have hnode : ∀ name n,
      (p.published default g.clearTypes).nodes.get? name = some n →
        ∃ θ, (p.published default g.clearTypes).Coherent n θ := by
    intro name n hn
    rw [Pass.get?_nodes_published, Option.map_eq_some_iff] at hn
    obtain ⟨n₀, hn₀, rfl⟩ := hn
    exact ⟨_, coherent_published hcurrent.clearTypes hp hwritable hconcrete hn₀⟩
  refine ⟨?_, hnode, fun channel c hc ↦ ?_, fun name n pin t hn ht ↦ ?_⟩
  · rw [Pass.clearTypes_published, clearTypes_clearTypes]
  · rw [Pass.get?_channels_published, Option.map_eq_some_iff] at hc
    obtain ⟨c₀, -, rfl⟩ := hc
    exact ⟨_, rfl, p.isConcrete_finalType hconcrete _⟩
  · obtain ⟨θ, hθ⟩ := hnode name n hn
    obtain ⟨declared, -, rfl⟩ := hθ.pinType pin t ht
    exact TypeExpr.isConcrete_substitute fun q _ ↦ hθ.concrete q.ident

/-- In `unslicedTwice` the input of the transformation is not connected; its parameter is published
all the same. -/
theorem infer_coherent_unslicedTwice :
    unslicedTwice.CachesCurrent ∧ TypeExpr.ofText "" "int" = .ok (.name "int") ∧
      (TypeExpr.name "int").isConcrete ∧
      ∃ g' n θ, unslicedTwice.infer (.name "int") = .ok g' ∧ g'.nodes.get? "source" = some n ∧
        g'.Coherent n θ ∧ n.typeParams.entries = [("In", "int"), ("Out", "[][]int")] := by
  have hrun : ((unslicedTwice.infer (.name "int")).toOption.bind fun g' ↦
      (g'.nodes.get? "source").map fun n ↦ n.typeParams.entries) =
        some [("In", "int"), ("Out", "[][]int")] := by
    cbv
  refine ⟨cachesCurrent_unslicedTwice, TypeExpr.ofText_int, rfl, ?_⟩
  cases hinfer : unslicedTwice.infer (.name "int") with
  | error i => rw [hinfer] at hrun; cases hrun
  | ok g' =>
    rw [hinfer] at hrun
    obtain ⟨n, hn, htexts⟩ := Option.map_eq_some_iff.1 hrun
    obtain ⟨-, hnode, -⟩ :=
      infer_coherent cachesCurrent_unslicedTwice TypeExpr.ofText_int rfl hinfer
    obtain ⟨θ, hθ⟩ := hnode "source" n hn
    exact ⟨g', n, θ, rfl, hn, hθ, htexts⟩

end Graph

end ChannelGraph
