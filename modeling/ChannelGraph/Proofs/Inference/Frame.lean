import ChannelGraph.Graph.Unusable
import ChannelGraph.Proofs.Inference.Coherence

/-!
# What an inference leaves alone

Whatever the default is and however an inference ends, only inferred types change: the graph that it
leaves is the given one once the inferred types are forgotten (`clearTypes_stateAfter_infer`). With
current caches it stops only with an incompatibility, unless the default is a tree without a text
(`CachesCurrent.stops`).

A default that was read from a text has one. Then nothing can stop an inference once the first type
is written, so that it leaves either no types at all or a type wherever there should be one,
whatever the caches hold and whatever types were there before (`tryInfer_allOrNothing`).
-/

namespace ChannelGraph

/-- What every step of a loop keeps, also where it stops, the loop keeps. -/
theorem stateAfter_foldlM {ε σ α : Type} {P : σ → Prop}
    {f : σ → α → Except (Interrupted ε σ) σ} (hf : ∀ s a, P s → P (stateAfter (f s a)))
    (xs : List α) {s : σ} (hs : P s) : P (stateAfter (xs.foldlM f s)) := by
  induction xs generalizing s with
  | nil => exact hs
  | cons a as ih =>
    have hfirst := hf s a hs
    rw [List.foldlM_cons]
    cases hrun : f s a with
    | error i =>
      rw [hrun] at hfirst
      exact hfirst
    | ok s' =>
      rw [hrun] at hfirst
      exact ih hfirst

namespace Graph

variable {g : Graph} {default : TypeExpr}

theorem clearTypes_modify_channel (g : Graph) (channel : String) (t : Option TypeExpr) :
    ({ g with channels := g.channels.modify channel fun c ↦ { c with type := t } } :
      Graph).clearTypes
      = g.clearTypes := by
  have hchannels : ((g.channels.modify channel fun c ↦ { c with type := t }).map
      fun _ c ↦ { c with type := none }) = g.channels.map fun _ c ↦ { c with type := none } :=
    OrderedMap.map_modify_of_forall fun _ _ ↦ rfl
  rw [clearTypes, clearTypes]
  dsimp only
  rw [hchannels]

theorem clearTypes_modify_node (g : Graph) (name : String) {f : Node → Node}
    (hf : ∀ n, (f n).clearTypes = n.clearTypes) :
    ({ g with nodes := g.nodes.modify name f } : Graph).clearTypes = g.clearTypes := by
  have hnodes : ((g.nodes.modify name f).map fun _ n ↦ n.clearTypes) =
      g.nodes.map fun _ n ↦ n.clearTypes :=
    OrderedMap.map_modify_of_forall fun n _ ↦ hf n
  rw [clearTypes, clearTypes]
  dsimp only
  rw [hnodes]

end Graph

namespace Pass

variable {p : Pass} {default : TypeExpr} {g g₀ : Graph}

/-- Publishing a channel changes its type only. -/
theorem clearTypes_commitChannel (p : Pass) (default : TypeExpr) (g : Graph)
    (entry : String × Option TypeExpr) :
    (stateAfter (p.commitChannel default g entry)).clearTypes = g.clearTypes := by
  unfold commitChannel
  cases p.settle default (entry.2.getD default) with
  | error f => rfl
  | ok e => exact g.clearTypes_modify_channel entry.1 (some e)

/-- Publishing a node changes its types only, also when a parameter has no text. -/
theorem clearTypes_commitNode (p : Pass) (default : TypeExpr) (g : Graph)
    (entry : String × Node) :
    (stateAfter (p.commitNode default g entry)).clearTypes = g.clearTypes := by
  unfold commitNode
  cases p.settleAll default ((p.pinTypes.get? entry.1).getD ∅) with
  | error f => rfl
  | ok types =>
    let withPins : Graph :=
      { g with nodes := g.nodes.modify entry.1 fun n ↦ { n with pinTypes := types } }
    have hpins : withPins.clearTypes = g.clearTypes :=
      g.clearTypes_modify_node entry.1 fun _ ↦ rfl
    dsimp only
    cases p.paramTexts default entry.1 entry.2 with
    | error f => exact hpins
    | ok texts =>
      have htexts := withPins.clearTypes_modify_node entry.1
        (f := fun n ↦ { n with typeParams := texts }) fun _ ↦ rfl
      exact htexts.trans hpins

/-- Writing the results changes only inferred types, also where it stops. -/
theorem clearTypes_commit (p : Pass) (default : TypeExpr) (g : Graph) :
    (stateAfter (p.commit default g)).clearTypes = g.clearTypes := by
  have hchannels := stateAfter_foldlM (P := fun g' ↦ g'.clearTypes = g.clearTypes)
    (fun g' entry h ↦ (p.clearTypes_commitChannel default g' entry).trans h)
    p.channelTypes.entries rfl
  unfold commit
  cases hrun : p.channelTypes.entries.foldlM (commitChannel p default) g with
  | error i =>
    rw [hrun] at hchannels
    exact hchannels
  | ok g' =>
    rw [hrun] at hchannels
    exact stateAfter_foldlM (P := fun g' ↦ g'.clearTypes = g.clearTypes)
      (fun g' entry h ↦ (p.clearTypes_commitNode default g' entry).trans h) g.nodes.entries
      hchannels

end Pass

namespace Graph

variable {g : Graph} {default : TypeExpr}

/-- However an inference ends, only inferred types change. -/
theorem clearTypes_stateAfter_infer (g : Graph) (default : TypeExpr) :
    (stateAfter (g.infer default)).clearTypes = g.clearTypes := by
  unfold infer
  dsimp only
  split
  · exact clearTypes_clearTypes g
  · exact (Pass.clearTypes_commit _ _ _).trans (clearTypes_clearTypes g)

/-- With current caches and a default that has a text, an inference that does not succeed found an
incompatibility. -/
theorem CachesCurrent.stops {i : Interrupted InferenceFault Graph} (hcurrent : g.CachesCurrent)
    (h : g.infer default = .error i) :
    (∃ channel pin conflict message, i.cause = .incompatible channel pin conflict message) ∨
      (¬default.IsWritable ∧ ∃ f, i.cause = .stopped f) := by
  rcases g.infer_eq_error_or_commit default with ⟨f, hrun, hf⟩ | ⟨p, hp, hrun⟩
  · cases hrun.symm.trans h
    exact .inl (hcurrent.exists_incompatible hf).1
  · -- the visits came to their end, so it is the default that cannot be written
    have hcommit := hrun.symm.trans h
    refine .inr ⟨fun hwritable ↦ ?_, Pass.exists_stopped_of_commit hp.toSound hcommit⟩
    cases (Pass.commit_eq hp.toSound hwritable).symm.trans hcommit

/-! ### All or nothing -/

/-- No types are inferred. -/
structure Untyped (g : Graph) : Prop where
  /-- No channel has a type. -/
  channels : ∀ channel c, g.channels.get? channel = some c → c.type = none
  /-- No pin has a type, and no parameter has a text. -/
  nodes : ∀ name n, g.nodes.get? name = some n → n.pinTypes = ∅ ∧ n.typeParams = ∅

/-- Types are inferred wherever there should be one. -/
structure Typed (g : Graph) : Prop where
  /-- Every channel has a type. -/
  channels : ∀ channel c, g.channels.get? channel = some c → ∃ t, c.type = some t
  /-- The declared pins that are connected to a channel of the graph have types. -/
  pins : ∀ name n, g.nodes.get? name = some n → n.pinTypes.keys =
    n.pins.keys.filter fun pin ↦ (n.connectedChannel pin).any (· ∈ g.channels)
  /-- The parameters in the declared types of all pins have texts. -/
  typeParams : ∀ name n, g.nodes.get? name = some n → n.typeParams.keys = n.declaredIdents

/-- A graph whose types were cleared has none. -/
theorem untyped_clearTypes (g : Graph) : g.clearTypes.Untyped where
  channels := by
    intro channel c hc
    rw [get?_channels_clearTypes] at hc
    obtain ⟨_, -, rfl⟩ := Option.map_eq_some_iff.1 hc
    rfl
  nodes := by
    intro name n hn
    rw [get?_nodes_clearTypes] at hn
    obtain ⟨_, -, rfl⟩ := Option.map_eq_some_iff.1 hn
    exact ⟨rfl, rfl⟩

/-- What is published has types wherever there should be one. -/
theorem typed_published {p : Pass} (h : Pass.Solved g p) (hdefault : default.IsWritable) :
    (p.published default g).Typed where
  channels := by
    intro channel c hc
    rw [Pass.get?_channels_published] at hc
    obtain ⟨_, -, rfl⟩ := Option.map_eq_some_iff.1 hc
    exact ⟨_, rfl⟩
  pins := by
    intro name n' hn'
    rw [Pass.get?_nodes_published] at hn'
    obtain ⟨n, hn, rfl⟩ := Option.map_eq_some_iff.1 hn'
    rw [keys_pinTypes_publishedNode h hn]
    simp only [Pass.published, OrderedMap.mem_map]
    rfl
  typeParams := by
    intro name n hn
    rw [Pass.get?_nodes_published] at hn
    obtain ⟨n, -, rfl⟩ := Option.map_eq_some_iff.1 hn
    exact Pass.keys_typeParams_publishedNode h.acyclic
      (Pass.paramsWritable h.toSound hdefault name n)

/-- An inference stops before any type is written, or it writes the final types of a state in which
everything agrees. -/
theorem tryInfer_eq_error_or_commit (g : Graph) (default : TypeExpr) :
    (∃ f, g.tryInfer default = .error ⟨f, g.clearTypes⟩) ∨
      ∃ p, Pass.Solved g.clearTypes p ∧ g.tryInfer default = p.commit default g.clearTypes := by
  unfold tryInfer
  cases g.firstContainer? Node.connection with
  | some bad => exact .inl ⟨_, rfl⟩
  | none =>
    rcases g.infer_eq_error_or_commit default with ⟨f, hrun, -⟩ | hcommit
    · exact .inl ⟨f, hrun⟩
    · exact .inr hcommit

/-- With a default that can be read from a text an inference is all or nothing, whatever the graph,
its caches and the types in it are: if it stops, for whatever reason, it leaves the graph without
types, and if it does not, it leaves a type wherever there should be one. Nothing but types
changes. -/
theorem tryInfer_allOrNothing {scope text : String}
    (hdefault : TypeExpr.ofText scope text = .ok default) :
    (∀ i, g.tryInfer default = .error i → i.reached = g.clearTypes ∧ i.reached.Untyped) ∧
      (∀ g', g.tryInfer default = .ok g' → g'.Typed) ∧
      (stateAfter (g.tryInfer default)).clearTypes = g.clearTypes := by
  have hwritable := TypeExpr.ofText_isWritable hdefault
  rcases g.tryInfer_eq_error_or_commit default with ⟨f, hrun⟩ | ⟨p, hp, hrun⟩
  · rw [hrun]
    refine ⟨?_, ?_, clearTypes_clearTypes g⟩
    · rintro _ ⟨⟩
      exact ⟨rfl, untyped_clearTypes g⟩
    · rintro _ ⟨⟩
  · -- a default that was read has a text, so nothing can stop the writing of the results
    rw [hrun, Pass.commit_eq hp.toSound hwritable]
    refine ⟨?_, ?_, ?_⟩
    · rintro _ ⟨⟩
    · rintro _ ⟨⟩
      exact typed_published hp hwritable
    · show (p.published default g.clearTypes).clearTypes = g.clearTypes
      rw [Pass.clearTypes_published, clearTypes_clearTypes]

/-- An unslicer with types from an earlier inference, at a channel that caches a pin of a missing
node behind the pin of the unslicer. -/
def typedAtGhost : Graph where
  nodes := .ofList [
    ("only", {
      part := .unslicer
      connections := .ofList [("input", .string "wire"), ("output", noConnection)]
      pinTypes := .ofList [("input", .compound "[]" [.name "int"])]
      typeParams := .ofList [("T", "int")] })]
  channels := .ofList [
    ("wire", {
      pins := [⟨"only", "input"⟩, ⟨"removed", "input"⟩].foldl PinSet.insert ∅
      type := some (.compound "[]" [.name "int"]) })]

/-- The pin of a missing node stops an inference after the types of an earlier one were forgotten
and the channel got a type that is not written. -/
theorem tryInfer_allOrNothing_typedAtGhost :
    TypeExpr.ofText "" "int" = .ok (.name "int") ∧ ¬typedAtGhost.Untyped ∧
      ∃ i, typedAtGhost.tryInfer (.name "int") = .error i ∧
        i.cause = .unwiredPin "wire" ⟨"removed", "input"⟩ ∧ i.reached.Untyped ∧
        i.reached.clearTypes = typedAtGhost.clearTypes := by
  have hcause : (typedAtGhost.tryInfer (.name "int")).mapError Interrupted.cause =
      .error (.unwiredPin "wire" ⟨"removed", "input"⟩) := by
    cbv
  have htyped : ¬typedAtGhost.Untyped := by
    intro h
    have hnone := (h.nodes "only" _ rfl).1
    exact absurd (congrArg OrderedMap.keys hnone) (by decide)
  obtain ⟨hstops, -, hframe⟩ := tryInfer_allOrNothing (g := typedAtGhost) TypeExpr.ofText_int
  refine ⟨TypeExpr.ofText_int, htyped, ?_⟩
  cases hrun : typedAtGhost.tryInfer (.name "int") with
  | ok g' => rw [hrun] at hcause; cases hcause
  | error i =>
    rw [hrun] at hcause hframe
    exact ⟨i, rfl, Except.error.inj hcause, (hstops i hrun).2, hframe⟩

end Graph

end ChannelGraph
