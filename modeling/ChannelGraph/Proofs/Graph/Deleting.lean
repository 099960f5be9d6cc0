import ChannelGraph.Graph.Unusable
import ChannelGraph.Proofs.Graph.Wiring
import Mathlib.Data.List.Induction

/-!
# Deleting a node

A node is deleted in a loop over its connections, which takes the pins of the node out of the caches
one after the other and remembers the channels that are left with too few. `Graph.Detached` says
what the loop has done after some of the connections: it holds at the start, every connection keeps
it (`Detached.step`), so it holds at the end (`detached_foldl`).

Where the wiring is in order the result is one equation again (`InOrder.deleteNode_eq`): the node
goes, with its pins in all caches (`Graph.withoutNode`), and on request the channels of the node
that are left with fewer than two pins.
-/

namespace ChannelGraph

namespace Graph

variable {g : Graph} {name channel : String} {pin : PinRef} {n : Node}
  {done : List (String × Json)} {entry : String × Json} {state : Graph × List String}

/-! ### The loop over the connections -/

/-- The state after a connection that names a channel. -/
theorem detach_eq {x : String} {c : Channel} (hc : state.1.channels.get? channel = some c)
    (hnil : channel ≠ nilName) :
    detach name state (x, .string channel) =
      ({ state.1 with
          channels := state.1.channels.insert channel { c with pins := c.pins.erase ⟨name, x⟩ } },
        if (c.pins.erase ⟨name, x⟩).size < minPins ∧ channel ∉ state.2 then state.2 ++ [channel]
        else state.2) := by
  simp only [detach, if_neg hnil, hc]
  split <;> rfl

/-- One more connection matters only to the channel that it names. -/
theorem mem_append_connection_iff (hne : entry.2 ≠ .string channel) (x : String) :
    (x, .string channel) ∈ done ++ [entry] ↔ (x, .string channel) ∈ done := by
  rw [List.mem_append, List.mem_singleton, or_iff_left]
  rintro rfl
  exact hne rfl

/-- What a graph and the list of channels with too few pins are after some connections of a node
were looked at. -/
structure Detached (g : Graph) (name : String) (done : List (String × Json))
    (state : Graph × List String) : Prop where
  /-- Only caches change. -/
  rest : state.1 = { g with channels := state.1.channels }
  /-- The channels are the same, in the same order. -/
  keys : state.1.channels.keys = g.channels.keys
  /-- The caches lose the pins of the node whose connection was looked at. -/
  caches : ∀ channel c, g.channels.get? channel = some c →
    ∃ c', state.1.channels.get? channel = some c' ∧ c' = { c with pins := c'.pins } ∧
      ∀ pin, pin ∈ c'.pins ↔
        pin ∈ c.pins ∧ ¬(pin.node = name ∧ (pin.pin, .string channel) ∈ done)
  /-- The list has the channels that were looked at and have too few pins. -/
  thin : ∀ channel, channel ∈ state.2 ↔ (∃ pin, (pin, .string channel) ∈ done) ∧
    ∃ c', state.1.channels.get? channel = some c' ∧ c'.pins.size < minPins
  /-- No channel is listed twice. -/
  nodup : state.2.Nodup

/-- Before the first connection of a node nothing is detached. -/
theorem detached_start (g : Graph) (name : String) : g.Detached name [] (g, []) where
  rest := rfl
  keys := rfl
  caches := fun _ c hc ↦ ⟨c, hc, rfl, by simp⟩
  thin := by simp
  nodup := List.nodup_nil

namespace Detached

theorem mem_channels_iff (h : g.Detached name done state) :
    channel ∈ state.1.channels ↔ channel ∈ g.channels := by
  rw [OrderedMap.mem_iff, OrderedMap.mem_iff, h.keys]

/-- A connection that names no channel changes nothing. -/
theorem skip (h : g.Detached name done state)
    (hskip : ∀ channel ∈ g.channels, entry.2 ≠ .string channel) :
    g.Detached name (done ++ [entry]) state := by
  have hdone : ∀ channel ∈ g.channels, ∀ x,
      (x, .string channel) ∈ done ++ [entry] ↔ (x, .string channel) ∈ done :=
    fun channel hmem ↦ mem_append_connection_iff (hskip channel hmem)
  refine ⟨h.rest, h.keys, fun channel c hc ↦ ?_, fun channel ↦ ?_, h.nodup⟩
  · have hmem : channel ∈ g.channels := OrderedMap.mem_iff_exists.2 ⟨c, hc⟩
    simpa only [hdone channel hmem] using h.caches channel c hc
  · rw [h.thin, and_congr_left_iff]
    rintro ⟨c', hc', -⟩
    have hmem : channel ∈ g.channels :=
      h.mem_channels_iff.1 (OrderedMap.mem_iff_exists.2 ⟨c', hc'⟩)
    simp only [hdone channel hmem]

/-- A connection that names a channel takes its pin out of the cache of the channel. -/
theorem take (h : g.Detached name done state) {x : String} {c' : Channel}
    (hc' : state.1.channels.get? channel = some c') (hnil : channel ≠ nilName) :
    g.Detached name (done ++ [(x, .string channel)])
      (detach name state (x, .string channel)) := by
  have hdone : ∀ channel' ≠ channel, ∀ y,
      (y, .string channel') ∈ done ++ [(x, .string channel)] ↔ (y, .string channel') ∈ done :=
    fun channel' hne ↦ mem_append_connection_iff fun heq ↦ hne (Json.string.inj heq).symm
  rw [detach_eq hc' hnil]
  refine ⟨?_, ?_, fun channel₀ c hc ↦ ?_, fun channel₀ ↦ ?_, ?_⟩
  · exact congrArg (fun g' : Graph ↦
      { g' with
        channels := state.1.channels.insert channel { c' with pins := c'.pins.erase ⟨name, x⟩ } })
      h.rest
  · have hmem : channel ∈ state.1.channels := OrderedMap.mem_iff_exists.2 ⟨c', hc'⟩
    exact (OrderedMap.keys_insert _ _ _).trans ((if_pos hmem).trans h.keys)
  · obtain ⟨c₀, hc₀, heq, hpins⟩ := h.caches channel₀ c hc
    by_cases hsame : channel₀ = channel
    · subst hsame
      obtain rfl := Option.some.inj (hc'.symm.trans hc₀)
      refine ⟨_, OrderedMap.get?_insert_self _ _ _, ?_, fun pin ↦ ?_⟩
      · rw [heq]
      · obtain ⟨node, y⟩ := pin
        rw [PinSet.mem_erase, hpins, List.mem_append, List.mem_singleton, Ne, PinRef.mk.injEq,
          Prod.mk.injEq, and_iff_left (rfl : Json.string channel₀ = .string channel₀)]
        tauto
    · simp only [hdone channel₀ hsame, OrderedMap.get?_insert_of_ne _ _ hsame]
      exact ⟨c₀, hc₀, heq, hpins⟩
  · by_cases hsame : channel₀ = channel
    · subst hsame
      have hleft : (∃ y, (y, Json.string channel₀) ∈ done ++ [(x, .string channel₀)]) ∧
          (∃ c₀, (state.1.channels.insert channel₀
            { c' with pins := c'.pins.erase ⟨name, x⟩ }).get? channel₀ = some c₀ ∧
              c₀.pins.size < minPins) ↔ (c'.pins.erase ⟨name, x⟩).size < minPins := by
        rw [OrderedMap.get?_insert_self]
        constructor
        · rintro ⟨-, _, heq, hsize⟩
          obtain rfl := Option.some.inj heq
          exact hsize
        · exact fun hsize ↦ ⟨⟨x, List.mem_append_right _ List.mem_cons_self⟩, _, rfl, hsize⟩
      -- A channel that is listed already had too few pins, and it has no more of them now.
      have hlisted : channel₀ ∈ state.2 → (c'.pins.erase ⟨name, x⟩).size < minPins := by
        intro hmem
        obtain ⟨-, c₀, hc₀, hsize⟩ := (h.thin channel₀).1 hmem
        obtain rfl := Option.some.inj (hc'.symm.trans hc₀)
        exact Nat.lt_of_le_of_lt (PinSet.size_erase_le _ _) hsize
      rw [hleft]
      dsimp only
      split
      · rename_i hnew
        exact iff_of_true (List.mem_append_right _ List.mem_cons_self) hnew.1
      · rename_i hold
        exact ⟨hlisted, fun hsize ↦ of_not_not fun hmem ↦ hold ⟨hsize, hmem⟩⟩
    · simp only [hdone channel₀ hsame, OrderedMap.get?_insert_of_ne _ _ hsame, ← h.thin]
      split
      · rw [List.mem_append, List.mem_singleton, or_iff_left hsame]
      · rfl
  · dsimp only
    split
    · rename_i hnew
      refine List.nodup_append.2 ⟨h.nodup, List.nodup_singleton _, ?_⟩
      rintro y hy _ hmem rfl
      exact hnew.2 (List.mem_singleton.1 hmem ▸ hy)
    · exact h.nodup

/-- A connection more is detached as those before it were. -/
theorem step (h : g.Detached name done state) (hnil : nilName ∉ g.channels)
    (entry : String × Json) :
    g.Detached name (done ++ [entry]) (detach name state entry) := by
  obtain ⟨x, v⟩ := entry
  cases v with
  | string channel =>
    by_cases hchannel : channel = nilName
    · have hstate : detach name state (x, .string channel) = state := if_pos hchannel
      rw [hstate]
      refine h.skip fun channel' hmem heq ↦ hnil ?_
      rwa [← hchannel, Json.string.inj heq]
    · cases hc' : state.1.channels.get? channel with
      | some c' => exact h.take hc' hchannel
      | none =>
        have hstate : detach name state (x, .string channel) = state := by
          simp [detach, hchannel, hc']
        rw [hstate]
        refine h.skip fun channel' hmem heq ↦ ?_
        obtain rfl := Json.string.inj heq
        exact OrderedMap.get?_eq_none_iff.1 hc' (h.mem_channels_iff.2 hmem)
  | _ => exact h.skip fun _ _ heq ↦ nomatch heq

end Detached

/-- The whole loop. -/
theorem detached_foldl (hnil : nilName ∉ g.channels) (name : String) (es : List (String × Json)) :
    g.Detached name es (es.foldl (detach name) (g, [])) := by
  induction es using List.reverseRecOn with
  | nil => exact detached_start g name
  | append_singleton es entry ih =>
    rw [List.foldl_append]
    exact ih.step hnil entry

/-! ### Deleting where the wiring is in order -/

/-- A graph without a node, and with none of its pins in a cache. -/
def withoutNode (name : String) (g : Graph) : Graph :=
  { g with
    nodes := g.nodes.erase name
    channels := g.channels.map fun _ c ↦ { c with pins := c.pins.away name } }

theorem get?_nodes_withoutNode (name name' : String) (g : Graph) :
    (g.withoutNode name).nodes.get? name' =
      if name' = name then none else g.nodes.get? name' :=
  OrderedMap.get?_erase _ _ _

/-- Without a node the channels have its pins no more. -/
theorem get?_channels_withoutNode (name : String) (g : Graph) (channel : String) :
    (g.withoutNode name).channels.get? channel =
      (g.channels.get? channel).map fun c ↦ { c with pins := c.pins.away name } :=
  OrderedMap.get?_map _ _ _

theorem mem_channels_withoutNode : channel ∈ (g.withoutNode name).channels ↔ channel ∈ g.channels :=
  OrderedMap.mem_map

/-- Without a node the other pins name what they did. -/
theorem names_withoutNode_iff :
    (g.withoutNode name).Names pin channel ↔ g.Names pin channel ∧ pin.node ≠ name := by
  unfold Names
  rw [get?_nodes_withoutNode]
  by_cases h : pin.node = name <;> simp [h]

/-- The pins of a node that name a channel are those with such a connection. -/
theorem names_iff_mem_entries (hn : g.nodes.get? name = some n) {x : String} :
    g.Names ⟨name, x⟩ channel ↔ (x, .string channel) ∈ n.connections.entries :=
  (names_iff_get? hn).trans OrderedMap.get?_eq_some_iff

namespace InOrder

/-- Without a node the wiring is still in order. -/
theorem withoutNode (h : g.InOrder) (name : String) : (g.withoutNode name).InOrder where
  unnamed := fun hmem ↦ h.unnamed (mem_channels_withoutNode.1 hmem)
  aligned := by
    intro name' n hn
    rw [get?_nodes_withoutNode] at hn
    split at hn
    · cases hn
    · exact h.aligned name' n hn
  connected := by
    intro name' n hn pin v hv
    rw [get?_nodes_withoutNode] at hn
    split at hn
    · cases hn
    · simpa only [mem_channels_withoutNode] using h.connected name' n hn pin v hv
  cached := by
    intro channel c' hc' pin
    rw [get?_channels_withoutNode] at hc'
    obtain ⟨c, hc, rfl⟩ := Option.map_eq_some_iff.1 hc'
    rw [PinSet.mem_away, h.cached channel c hc, names_withoutNode_iff]

/-- The loop over the connections of a node takes its pins out of all caches. -/
theorem channels_of_detached (h : g.InOrder) (hn : g.nodes.get? name = some n)
    (hdetached : g.Detached name n.connections.entries state) :
    state.1.channels = (g.withoutNode name).channels := by
  apply OrderedMap.ext_get?
  · rw [hdetached.keys]
    exact (OrderedMap.keys_map _ _).symm
  · intro channel
    rw [get?_channels_withoutNode]
    cases hc : g.channels.get? channel with
    | none =>
      rw [Option.map_none, OrderedMap.get?_eq_none_iff, hdetached.mem_channels_iff]
      exact OrderedMap.get?_eq_none_iff.1 hc
    | some c =>
      obtain ⟨c', hc', heq, hpins⟩ := hdetached.caches channel c hc
      have haway : c'.pins = c.pins.away name := by
        refine PinSet.ext fun ⟨node, x⟩ ↦ ?_
        rw [hpins, PinSet.mem_away]
        refine and_congr_right fun hpin ↦ ?_
        have hnames := (h.cached channel c hc ⟨node, x⟩).1 hpin
        constructor
        · rintro hnot rfl
          exact hnot ⟨rfl, (names_iff_mem_entries hn).1 hnames⟩
        · exact fun hne hnode ↦ hne hnode.1
      rw [hc', heq, haway]
      rfl

/-- Deleting an existing node takes away the node and, on request, the channels of the node that are
left with too few pins; nothing else happens. -/
theorem deleteNode_eq (h : g.InOrder) (hname : name ∈ g.nodes) (prune : Bool) :
    ∃ gone, g.deleteNode name prune = .ok ((g.withoutNode name).withoutChannels gone) ∧
      ∀ channel, channel ∈ gone ↔ prune = true ∧ (∃ x, g.Names ⟨name, x⟩ channel) ∧
        ∃ c, g.channels.get? channel = some c ∧ (c.pins.away name).size < minPins := by
  obtain ⟨n, hn⟩ := OrderedMap.mem_iff_exists.1 hname
  have hdetached := detached_foldl h.unnamed name n.connections.entries
  have hrun : g.deleteNode name prune =
      let state := n.connections.entries.foldl (detach name) (g, [])
      let g' := { state.1 with nodes := state.1.nodes.erase name }
      if prune then state.2.foldlM deleteChannel g' else .ok g' := by
    rw [deleteNode, hn]
  rw [hrun]
  generalize n.connections.entries.foldl (detach name) (g, []) = state at hdetached
  have hnode : { state.1 with nodes := state.1.nodes.erase name } = g.withoutNode name := by
    rw [hdetached.rest, h.channels_of_detached hn hdetached]
    rfl
  dsimp only
  rw [hnode]
  have hthin : ∀ channel, channel ∈ state.2 ↔ (∃ x, g.Names ⟨name, x⟩ channel) ∧
      ∃ c, g.channels.get? channel = some c ∧ (c.pins.away name).size < minPins := by
    intro channel
    simp only [hdetached.thin, h.channels_of_detached hn hdetached, names_iff_mem_entries hn,
      get?_channels_withoutNode, Option.map_eq_some_iff, exists_exists_and_eq_and]
  cases prune with
  | false =>
    refine ⟨[], ?_, fun channel ↦ ?_⟩
    · rw [withoutChannels_nil]
      rfl
    · exact iff_of_false List.not_mem_nil fun hgone ↦ nomatch hgone.1
  | true =>
    refine ⟨state.2, ?_, fun channel ↦ ?_⟩
    · -- the channels are deleted once the node is gone, and the wiring is tidy then
      refine (h.withoutNode name).tidy.foldlM_deleteChannel (fun channel hmem ↦ ?_) hdetached.nodup
      obtain ⟨-, c, hc, -⟩ := (hthin channel).1 hmem
      exact mem_channels_withoutNode.2 (OrderedMap.mem_iff_exists.2 ⟨c, hc⟩)
    · rw [hthin, and_iff_right rfl]

end InOrder

end Graph

end ChannelGraph
