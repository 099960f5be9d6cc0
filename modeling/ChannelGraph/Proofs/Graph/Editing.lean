import ChannelGraph.Proofs.Graph.Deleting
import ChannelGraph.Proofs.Graph.Refreshing
import ChannelGraph.Proofs.Inference.Frame

/-!
# Whole runs of edits

A graph that was rebuilt once stays in order under deletions, additions, further rebuildings and
inferences, in any number and order (`Graph.Edited`). Every kind of edit keeps the wiring in order
(`InOrder.stateAfter_run`), so it is in order in every state of a run (`Edited.inOrder`). What a run
can rely on follows from that: caches and connections say the same, no edit finds the caches wrong,
and a deleted node is gone from them (`Edited.reliable`).
-/

namespace ChannelGraph

namespace Graph

variable {g g' : Graph} {name channel : String} {pin : PinRef} {n : Node} {c : Channel}

/-! ### Order and inferred types -/

/-- What names a channel does not depend on types. -/
theorem names_clearTypes_iff : g.clearTypes.Names pin channel ↔ g.Names pin channel := by
  unfold Names
  rw [get?_nodes_clearTypes]
  cases g.nodes.get? pin.node with
  | none => simp
  | some n => simp [Node.clearTypes]

/-- Inferred types are no part of the wiring. -/
theorem inOrder_clearTypes_iff : g.clearTypes.InOrder ↔ g.InOrder := by
  constructor
  · intro h
    refine ⟨fun hmem ↦ h.unnamed (mem_channels_clearTypes.2 hmem), fun name n hn ↦ ?_,
      fun name n hn pin v hv ↦ ?_, fun channel c hc pin ↦ ?_⟩
    · exact h.aligned name n.clearTypes (by rw [get?_nodes_clearTypes, hn]; rfl)
    · have hconnected := h.connected name n.clearTypes
        (by rw [get?_nodes_clearTypes, hn]; rfl) pin v hv
      simpa only [mem_channels_clearTypes] using hconnected
    · have hcached := h.cached channel { c with type := none }
        (by rw [get?_channels_clearTypes, hc]; rfl) pin
      rwa [names_clearTypes_iff] at hcached
  · intro h
    refine ⟨fun hmem ↦ h.unnamed (mem_channels_clearTypes.1 hmem), fun name n' hn' ↦ ?_,
      fun name n' hn' pin v hv ↦ ?_, fun channel c' hc' pin ↦ ?_⟩
    · rw [get?_nodes_clearTypes] at hn'
      obtain ⟨n, hn, rfl⟩ := Option.map_eq_some_iff.1 hn'
      exact h.aligned name n hn
    · rw [get?_nodes_clearTypes] at hn'
      obtain ⟨n, hn, rfl⟩ := Option.map_eq_some_iff.1 hn'
      simpa only [mem_channels_clearTypes] using h.connected name n hn pin v hv
    · rw [get?_channels_clearTypes] at hc'
      obtain ⟨c, hc, rfl⟩ := Option.map_eq_some_iff.1 hc'
      rw [names_clearTypes_iff]
      exact h.cached channel c hc pin

namespace InOrder

/-- Graphs that differ only in inferred types are in order together. -/
theorem of_clearTypes_eq (h : g.InOrder) (heq : g'.clearTypes = g.clearTypes) : g'.InOrder :=
  inOrder_clearTypes_iff.1 (heq ▸ inOrder_clearTypes_iff.2 h)

end InOrder

/-! ### What order means for the other operations -/

namespace Tidy

/-- Where the wiring is tidy all connections can be looked up. -/
theorem connectionsLookUp (h : g.Tidy) : g.ConnectionsLookUp := by
  intro n hn v hv
  obtain ⟨⟨name, n⟩, hentry, rfl⟩ := List.mem_map.1 hn
  obtain ⟨⟨pin, v⟩, hpin, rfl⟩ := List.mem_map.1 hv
  rcases h.connected name n (OrderedMap.get?_eq_some_iff.2 hentry) pin v
    (OrderedMap.get?_eq_some_iff.2 hpin) with rfl | ⟨channel, -, -, rfl⟩ <;> rfl

/-- In a tidy wiring every connection can be looked up, so inference is not stopped over one. -/
theorem tryInfer_eq (h : g.Tidy) (default : TypeExpr) : g.tryInfer default = g.infer default := by
  refine tryInfer_of_forall (fun entry hentry pin _ ↦ ?_) default
  exact h.connectionsLookUp.isContainer_connection (OrderedMap.mem_values_of_mem_entries hentry) pin

/-- Where the wiring is tidy the pins that name a channel are the declared ones that are connected
to it. -/
theorem names_iff_exists_wired (h : g.Tidy) (hnil : channel ≠ nilName) :
    g.Names pin channel ↔ ∃ e, g.Wired channel pin e := by
  constructor
  · rintro ⟨n, hn, hpin⟩
    have hdeclared : pin.pin ∈ n.pins := by
      rw [OrderedMap.mem_iff, ← h.aligned pin.node n hn]
      exact OrderedMap.mem_iff_exists.2 ⟨_, hpin⟩
    obtain ⟨declared, hdeclared⟩ := OrderedMap.mem_iff_exists.1 hdeclared
    -- in a tidy wiring only the text for no channel stands for none
    have hempty : channel ≠ "" := by
      rcases h.connected pin.node n hn pin.pin _ hpin with heq | ⟨channel', -, hne, heq⟩
      · exact absurd (Json.string.inj heq) hnil
      · rwa [Json.string.inj heq]
    refine ⟨_, n, declared, hn, hdeclared, ?_, rfl⟩
    refine Node.connectedChannel_eq_some_iff.2 ⟨?_, hempty, hnil⟩
    rw [Node.connection, hpin]
    rfl
  · rintro ⟨-, n, -, hn, -, hconnected, -⟩
    obtain ⟨hconnection, -⟩ := Node.connectedChannel_eq_some_iff.1 hconnected
    refine ⟨n, hn, ?_⟩
    unfold Node.connection at hconnection
    cases hv : n.connections.get? pin.pin with
    | none =>
      rw [hv] at hconnection
      exact absurd (Json.string.inj hconnection).symm hnil
    | some v =>
      rw [hv] at hconnection
      exact congrArg some hconnection

end Tidy

namespace InOrder

theorem connectionsLookUp (h : g.InOrder) : g.ConnectionsLookUp :=
  h.tidy.connectionsLookUp

theorem names_iff_exists_wired (h : g.InOrder) (hchannel : channel ∈ g.channels) :
    g.Names pin channel ↔ ∃ e, g.Wired channel pin e :=
  h.tidy.names_iff_exists_wired fun heq ↦ h.unnamed (heq ▸ hchannel)

/-- Where the wiring is in order the caches are current. -/
theorem cachesCurrent (h : g.InOrder) : g.CachesCurrent := by
  intro channel c hc pin
  rw [h.cached channel c hc,
    h.names_iff_exists_wired (OrderedMap.mem_iff_exists.2 ⟨c, hc⟩)]

/-- A new channel that caches nothing leaves the wiring in order. -/
theorem insert_channel (h : g.InOrder) (hnew : channel ∉ g.channels) (hnil : channel ≠ nilName)
    (hpins : c.pins = ∅) : InOrder { g with channels := g.channels.insert channel c } where
  unnamed := by
    intro hmem
    rcases OrderedMap.mem_insert.1 hmem with heq | hmem
    · exact hnil heq.symm
    · exact h.unnamed hmem
  aligned := h.aligned
  connected := by
    intro name n hn pin v hv
    rcases h.connected name n hn pin v hv with hv | ⟨channel', hmem, hrest⟩
    · exact .inl hv
    · exact .inr ⟨channel', OrderedMap.mem_insert.2 (.inr hmem), hrest⟩
  cached := by
    intro channel' c' hc' pin
    by_cases hsame : channel' = channel
    · subst hsame
      rw [OrderedMap.get?_insert_self] at hc'
      obtain rfl := Option.some.inj hc'
      rw [hpins]
      refine iff_of_false (PinSet.not_mem_empty pin) fun hnames ↦ hnew ?_
      exact h.mem_channels hnames hnil
    · rw [OrderedMap.get?_insert_of_ne _ _ hsame] at hc'
      exact h.cached channel' c' hc' pin

/-- A new node whose pins are connected to nothing leaves the wiring in order. -/
theorem insert_node (h : g.InOrder) (hnew : name ∉ g.nodes)
    (hkeys : n.connections.keys = n.pins.keys)
    (hnone : ∀ pin v, n.connections.get? pin = some v → v = noConnection) :
    InOrder { g with nodes := g.nodes.insert name n } where
  unnamed := h.unnamed
  aligned := by
    intro name' n' hn'
    by_cases hsame : name' = name
    · subst hsame
      rw [OrderedMap.get?_insert_self] at hn'
      obtain rfl := Option.some.inj hn'
      exact hkeys
    · rw [OrderedMap.get?_insert_of_ne _ _ hsame] at hn'
      exact h.aligned name' n' hn'
  connected := by
    intro name' n' hn' pin v hv
    by_cases hsame : name' = name
    · subst hsame
      rw [OrderedMap.get?_insert_self] at hn'
      obtain rfl := Option.some.inj hn'
      exact .inl (hnone pin v hv)
    · rw [OrderedMap.get?_insert_of_ne _ _ hsame] at hn'
      exact h.connected name' n' hn' pin v hv
  cached := by
    intro channel c hc pin
    have hnil : channel ≠ nilName := by
      rintro rfl
      exact h.unnamed (OrderedMap.mem_iff_exists.2 ⟨c, hc⟩)
    rw [h.cached channel c hc]
    unfold Names
    -- the pins of the new node name nothing, and before it had none
    by_cases hsame : pin.node = name
    · refine iff_of_false ?_ ?_
      · rintro ⟨n', hn', -⟩
        exact hnew (hsame ▸ OrderedMap.mem_iff_exists.2 ⟨n', hn'⟩)
      · rintro ⟨n', hn', hpin⟩
        rw [hsame, OrderedMap.get?_insert_self] at hn'
        obtain rfl := Option.some.inj hn'
        exact hnil (Json.string.inj (hnone _ _ hpin))
    · rw [OrderedMap.get?_insert_of_ne _ _ hsame]

end InOrder

/-! ### Edits -/

/-- What can be done to a graph. -/
inductive Edit where
  | deleteChannel (channel : String)
  | deleteNode (name : String) (prune : Bool)
  | addChannel (name : String) (c : Channel)
  | addNode (name : String) (n : Node)
  | refresh
  | infer (default : TypeExpr)

namespace Edit

/-- Deleted is what is there; added is what is not, under a name for a channel, without cached pins
and without connections, and with a count that is not refused. -/
def Allowed (g : Graph) : Edit → Prop
  | deleteChannel channel => channel ∈ g.channels
  | deleteNode name _ => name ∈ g.nodes
  | addChannel name c =>
    name ∉ g.channels ∧ name ≠ nilName ∧ c.pins = ∅ ∧ c.refusal? name = none
  | addNode name n => name ∉ g.nodes ∧ n.connections = ∅ ∧ n.refusal? name = none
  | refresh => True
  | infer _ => True

/-- Do an edit, which may stop at a fault of the graph or of an inference. -/
def run (g : Graph) : Edit → Except (Interrupted (GraphFault ⊕ InferenceFault) Graph) Graph
  | deleteChannel channel => (g.deleteChannel channel).mapError fun i ↦ ⟨.inl i.cause, i.reached⟩
  | deleteNode name prune =>
    (g.tryDeleteNode name prune).mapError fun i ↦ ⟨.inl i.cause, i.reached⟩
  | addChannel name c => (g.addChannel name c).mapError fun fault ↦ ⟨.inl fault, g⟩
  | addNode name n => (g.addNode name n).mapError fun fault ↦ ⟨.inl fault, g⟩
  | refresh => g.tryRefresh.mapError fun i ↦ ⟨.inl i.cause, i.reached⟩
  | infer default => (g.tryInfer default).mapError fun i ↦ ⟨.inr i.cause, i.reached⟩

end Edit

/-- A graph that was rebuilt at some time, with no channel named like no channel, and edited
since. -/
inductive Edited : Graph → Prop
  | refreshed {g g' : Graph} (h : g.tryRefresh = .ok g') (hnil : nilName ∉ g'.channels) : Edited g'
  | edit {g : Graph} (h : Edited g) (e : Edit) (he : e.Allowed g) :
    Edited (stateAfter (Edit.run g e))

namespace InOrder

/-- In a wiring in order, deleting a node is not stopped over a connection. -/
theorem tryDeleteNode_eq (h : g.InOrder) (hname : name ∈ g.nodes) (prune : Bool) :
    g.tryDeleteNode name prune = g.deleteNode name prune := by
  obtain ⟨n, hn⟩ := OrderedMap.mem_iff_exists.1 hname
  refine tryDeleteNode_of_forall hn (fun entry hentry ↦ ?_) prune
  exact h.connectionsLookUp n (OrderedMap.mem_values_of_get? hn) entry.2
    (OrderedMap.mem_values_of_mem_entries hentry)

theorem tryInfer_eq (h : g.InOrder) (default : TypeExpr) :
    g.tryInfer default = g.infer default :=
  h.tidy.tryInfer_eq default

/-- An existing channel is deleted, and all pins are disconnected from it. -/
theorem run_deleteChannel (h : g.InOrder) (hchannel : channel ∈ g.channels) :
    Edit.run g (.deleteChannel channel) = .ok (g.withoutChannels [channel]) := by
  rw [Edit.run, h.tidy.deleteChannel_eq hchannel]
  rfl

/-- An existing node is deleted together with the channels that are too thin without it, if these
are to be pruned. -/
theorem run_deleteNode (h : g.InOrder) (hname : name ∈ g.nodes) (prune : Bool) :
    ∃ gone, Edit.run g (.deleteNode name prune) =
        .ok ((g.withoutNode name).withoutChannels gone) ∧
      ∀ channel, channel ∈ gone ↔ prune = true ∧ (∃ x, g.Names ⟨name, x⟩ channel) ∧
        ∃ c, g.channels.get? channel = some c ∧ (c.pins.away name).size < minPins := by
  obtain ⟨gone, hrun, hgone⟩ := h.deleteNode_eq hname prune
  refine ⟨gone, ?_, hgone⟩
  rw [Edit.run, h.tryDeleteNode_eq hname, hrun]
  rfl

/-- Rebuilding is not stopped. -/
theorem run_refresh (h : g.InOrder) : Edit.run g .refresh = .ok g.refresh := by
  rw [Edit.run, h.connectionsLookUp.tryRefresh_eq]
  rfl

end InOrder

/-- A new channel is added. -/
theorem run_addChannel (he : (Edit.addChannel name c).Allowed g) :
    Edit.run g (.addChannel name c) = .ok { g with channels := g.channels.insert name c } := by
  obtain ⟨hnew, -, -, hcount⟩ := he
  rw [Edit.run, addChannel, hcount]
  dsimp only
  rw [if_neg hnew]
  rfl

/-- A new node is added with its connections aligned. -/
theorem run_addNode (he : (Edit.addNode name n).Allowed g) :
    Edit.run g (.addNode name n) = .ok { g with nodes := g.nodes.insert name n.align } := by
  obtain ⟨hnew, -, hcount⟩ := he
  rw [Edit.run, addNode, hcount]
  dsimp only
  rw [if_neg hnew]
  rfl

namespace InOrder

variable {e : Edit}

/-- Every edit keeps the wiring in order, also an inference that stops. -/
theorem stateAfter_run (h : g.InOrder) (he : e.Allowed g) :
    (stateAfter (Edit.run g e)).InOrder := by
  cases e with
  | deleteChannel channel =>
    rw [h.run_deleteChannel he]
    exact h.withoutChannels [channel]
  | deleteNode name prune =>
    obtain ⟨gone, hrun, -⟩ := h.run_deleteNode he prune
    rw [hrun]
    exact (h.withoutNode name).withoutChannels gone
  | addChannel name c =>
    rw [run_addChannel he]
    obtain ⟨hnew, hnil, hpins, -⟩ := he
    exact h.insert_channel hnew hnil hpins
  | addNode name n =>
    rw [run_addNode he]
    obtain ⟨hnew, hempty, -⟩ := he
    refine h.insert_node hnew (OrderedMap.keys_map _ _) fun pin v hv ↦ ?_
    dsimp only [Node.align] at hv
    rw [OrderedMap.get?_map] at hv
    obtain ⟨declared, -, rfl⟩ := Option.map_eq_some_iff.1 hv
    rw [Node.connection, hempty]
    rfl
  | refresh =>
    rw [h.run_refresh]
    exact inOrder_refresh fun hmem ↦ h.unnamed (mem_channels_refresh.1 hmem).1
  | infer default =>
    have hstate : stateAfter (Edit.run g (.infer default)) = stateAfter (g.infer default) := by
      rw [Edit.run, h.tryInfer_eq]
      cases g.infer default <;> rfl
    rw [hstate]
    exact h.of_clearTypes_eq (g.clearTypes_stateAfter_infer default)

/-- An edit succeeds, unless it is an inference that finds an incompatibility or is given a default
without a text. -/
theorem run_cases (h : g.InOrder) (he : e.Allowed g) :
    (∃ g', Edit.run g e = .ok g') ∨ ∃ default fault g', e = .infer default ∧
      Edit.run g e = .error ⟨.inr fault, g'⟩ ∧
        ((∃ channel pin conflict message, fault = .incompatible channel pin conflict message) ∨
          (¬default.IsWritable ∧ ∃ f, fault = .stopped f)) := by
  cases e with
  | deleteChannel channel => exact .inl ⟨_, h.run_deleteChannel he⟩
  | deleteNode name prune =>
    obtain ⟨gone, hrun, -⟩ := h.run_deleteNode he prune
    exact .inl ⟨_, hrun⟩
  | addChannel name c => exact .inl ⟨_, run_addChannel he⟩
  | addNode name n => exact .inl ⟨_, run_addNode he⟩
  | refresh => exact .inl ⟨_, h.run_refresh⟩
  | infer default =>
    rw [Edit.run, h.tryInfer_eq]
    cases hrun : g.infer default with
    | ok g' => exact .inl ⟨g', rfl⟩
    | error i => exact .inr ⟨default, i.cause, i.reached, rfl, rfl, h.cachesCurrent.stops hrun⟩

end InOrder

/-! ### Runs of edits -/

/-- In every state of a run the wiring is in order. -/
theorem Edited.inOrder (h : g.Edited) : g.InOrder := by
  induction h with
  | @refreshed g g' hrun hnil =>
    obtain rfl := refresh_eq_of_tryRefresh hrun
    exact inOrder_refresh hnil
  | edit _ e he ih => exact ih.stateAfter_run he

/-- What is left when a node was deleted. -/
structure NodeDeleted (g : Graph) (name : String) (prune : Bool) (g' : Graph) : Prop where
  /-- The node is gone, and with it its connections. -/
  node : name ∉ g'.nodes
  /-- No cache has a pin of the node. -/
  caches : ∀ channel c, g'.channels.get? channel = some c → ∀ pin ∈ c.pins, pin.node ≠ name
  /-- On request no channel that the node was connected to is left with too few pins. -/
  pruned : prune = true → ∀ x channel c, g.Names ⟨name, x⟩ channel →
    g'.channels.get? channel = some c → minPins ≤ c.pins.size
  /-- Without that request all channels are left, in their order. -/
  kept : prune = false → g'.channels.keys = g.channels.keys

/-- From a wiring in order, deleting a node does all that is said of it. -/
theorem InOrder.nodeDeleted (h : g.InOrder) (hname : name ∈ g.nodes) (prune : Bool) :
    ∃ g', Edit.run g (.deleteNode name prune) = .ok g' ∧ g.NodeDeleted name prune g' := by
  obtain ⟨gone, hrun, hgone⟩ := h.run_deleteNode hname prune
  -- a channel that is left lost exactly the pins of the node
  have hget : ∀ channel c, ((g.withoutNode name).withoutChannels gone).channels.get? channel =
      some c → channel ∉ gone ∧ ∃ c₀, g.channels.get? channel = some c₀ ∧
        c.pins = c₀.pins.away name := by
    intro channel c hc
    rw [get?_channels_withoutChannels_iff, get?_channels_withoutNode] at hc
    obtain ⟨hkept, hc⟩ := hc
    obtain ⟨c₀, hc₀, rfl⟩ := Option.map_eq_some_iff.1 hc
    exact ⟨hkept, c₀, hc₀, rfl⟩
  refine ⟨_, hrun, ?_, fun channel c hc pin hpin ↦ ?_, fun hprune x channel c hnames hc ↦ ?_,
    fun hprune ↦ ?_⟩
  · rw [← OrderedMap.get?_eq_none_iff, get?_nodes_withoutChannels, get?_nodes_withoutNode,
      if_pos rfl]
    rfl
  · obtain ⟨-, c₀, -, hpins⟩ := hget channel c hc
    rw [hpins] at hpin
    exact (PinSet.mem_away.1 hpin).2
  · obtain ⟨hkept, c₀, hc₀, hpins⟩ := hget channel c hc
    rw [hpins]
    by_contra hthin
    exact hkept ((hgone channel).2 ⟨hprune, ⟨x, hnames⟩, c₀, hc₀, Nat.lt_of_not_le hthin⟩)
  · have hnone : gone = [] := by
      refine List.eq_nil_iff_forall_not_mem.2 fun channel hmem ↦ ?_
      rw [((hgone channel).1 hmem).1] at hprune
      cases hprune
    rw [hnone, withoutChannels_nil]
    exact OrderedMap.keys_map _ _

/-- In every state of a run caches and connections say the same and every connection is to nothing
or to an existing channel; no edit is stopped by wrong caches, but an inference may stop because
types are incompatible or its default has no text; and a deleted node is gone from all caches, with
the channels that it leaves with too few pins if that is asked for and without any otherwise. -/
theorem Edited.reliable (h : g.Edited) :
    (∀ channel c, g.channels.get? channel = some c →
      ∀ pin, pin ∈ c.pins ↔ g.Names pin channel) ∧
    (∀ name n, g.nodes.get? name = some n → ∀ pin v, n.connections.get? pin = some v →
      v = noConnection ∨ ∃ channel ∈ g.channels, v = .string channel) ∧
    (∀ e : Edit, e.Allowed g → (∃ g', Edit.run g e = .ok g') ∨
      ∃ default fault g', e = .infer default ∧ Edit.run g e = .error ⟨.inr fault, g'⟩ ∧
        ((∃ channel pin conflict message, fault = .incompatible channel pin conflict message) ∨
          (¬default.IsWritable ∧ ∃ f, fault = .stopped f))) ∧
    ∀ name prune, name ∈ g.nodes →
      ∃ g', Edit.run g (.deleteNode name prune) = .ok g' ∧ g.NodeDeleted name prune g' := by
  refine ⟨h.inOrder.cached, fun name n hn pin v hv ↦ ?_, fun e he ↦ h.inOrder.run_cases he,
    fun name prune hname ↦ h.inOrder.nodeDeleted hname prune⟩
  rcases h.inOrder.connected name n hn pin v hv with hv | ⟨channel, hmem, -, hv⟩
  · exact .inl hv
  · exact .inr ⟨channel, hmem, hv⟩

/-- Two unslicers behind a transformation, after the middle node was deleted with all channels
kept. -/
def middleDeleted : Graph :=
  stateAfter (Edit.run unslicedTwice.refresh (.deleteNode "first" false))

/-- The graph without the middle node comes about by deletions from a rebuilt one. -/
theorem edited_middleDeleted : middleDeleted.Edited := by
  have hlookup : unslicedTwice.ConnectionsLookUp := by decide +kernel
  have hstart : unslicedTwice.refresh.Edited := .refreshed hlookup.tryRefresh_eq (by decide +kernel)
  have hmiddle : "first" ∈ unslicedTwice.refresh.nodes := by decide +kernel
  exact hstart.edit (.deleteNode "first" false) hmiddle

/-- The channel that was between the unslicers has no pins left when the second one is deleted too,
and goes with it; the channel of the transformation stays with one pin. -/
theorem Edited.reliable_middleDeleted :
    middleDeleted.channels.keys = ["inner", "outer"] ∧
      ∃ g', Edit.run middleDeleted (.deleteNode "second" true) = .ok g' ∧
        middleDeleted.NodeDeleted "second" true g' ∧ g'.channels.keys = ["outer"] := by
  obtain ⟨-, -, -, hdelete⟩ := edited_middleDeleted.reliable
  obtain ⟨g', hrun, hdeleted⟩ := hdelete "second" true (by decide +kernel)
  have hkeys : (Edit.run middleDeleted (.deleteNode "second" true)).toOption.map
      (fun g' ↦ g'.channels.keys) = some ["outer"] := by
    decide +kernel
  rw [hrun] at hkeys
  exact ⟨by decide +kernel, g', hrun, hdeleted, Option.some.inj hkeys⟩

end Graph

end ChannelGraph
