import ChannelGraph.Proofs.Inference.Coherence

/-!
# Names and order do not matter to inference

Graphs that are the same up to the order of everything and up to the names of nodes, channels and
type parameters (`Graph.Alike`) are inferred alike (`Alike.infer_sameTypes`): both inferences
succeed or neither does, both find an incompatibility or neither does, and what they publish is the
same, up to the names.

On the way the two inferences have little in common. Names and order decide which pin gives a
channel its type, which of two parameters is bound to the other, and which channel is visited next.
They meet at the end. A renaming turns solutions for one graph into solutions for the other
(`Alike.solution_comp`, `Alike.exists_solution`), so the most general solutions at which the two
inferences arrive are instances of each other, and the default makes them equal
(`Alike.groundWith_rename`).
-/

namespace ChannelGraph

/-! ### Renamed graphs -/

/-- A parameter by the new names of its node and of itself. -/
def TypeParam.renamed (ν : String → String) (ι : String → String → String) (q : TypeParam) :
    TypeParam :=
  ⟨ν q.scope, ι q.scope q.ident⟩

/-- A node is another one with its type parameters renamed, as far as its pins and their connections
to renamed channels go. -/
structure Node.Alike (n n' : Node) (channels : List String) (κ ι : String → String) : Prop where
  /-- Different parameters get different names. -/
  idents : ∀ i ∈ n.declaredIdents, ∀ j ∈ n.declaredIdents, ι i = ι j → i = j
  /-- The pins are the same, in any order. -/
  pins : n'.pins.keys.Perm n.pins.keys
  /-- The declared type of a pin is the same, up to the names of parameters. -/
  declared : ∀ pin ∈ n.pins.keys, (n'.pins.get? pin).map (fun d ↦ d.type.tree) =
    (n.pins.get? pin).map fun d ↦ d.type.tree.rename fun q ↦ ⟨q.scope, ι q.ident⟩
  /-- A pin is connected to a channel exactly if it is connected to the renamed channel. -/
  connected : ∀ pin ∈ n.pins.keys, ∀ channel ∈ channels,
    n.connectedChannel pin = some channel ↔ n'.connectedChannel pin = some (κ channel)

/-- A graph is another one with its nodes, its channels and the type parameters of each node
renamed, in any order. Neither keys nor their new names are repeated, so different nodes and
different channels get different names. -/
structure Graph.Alike (g g' : Graph) (ν κ : String → String) (ι : String → String → String) :
    Prop where
  /-- The nodes are the renamed ones. -/
  nodes : g'.nodes.keys.Perm (g.nodes.keys.map ν)
  /-- The channels are the renamed ones. -/
  channels : g'.channels.keys.Perm (g.channels.keys.map κ)
  /-- Nodes correspond to each other under their new names. -/
  node : ∀ name n n', g.nodes.get? name = some n → g'.nodes.get? (ν name) = some n' →
    n.Alike n' g.channels.keys κ (ι name)

instance (n n' : Node) (channels : List String) (κ ι : String → String) :
    Decidable (n.Alike n' channels κ ι) :=
  decidable_of_iff (_ ∧ _ ∧ _ ∧ _)
    ⟨fun ⟨idents, pins, declared, connected⟩ ↦ ⟨idents, pins, declared, connected⟩,
      fun h ↦ ⟨h.idents, h.pins, h.declared, h.connected⟩⟩

theorem Graph.alike_iff {g g' : Graph} {ν κ : String → String} {ι : String → String → String} :
    g.Alike g' ν κ ι ↔ g'.nodes.keys.Perm (g.nodes.keys.map ν) ∧
      g'.channels.keys.Perm (g.channels.keys.map κ) ∧ ∀ entry ∈ g.nodes.entries,
        ∀ n' ∈ g'.nodes.get? (ν entry.1), entry.2.Alike n' g.channels.keys κ (ι entry.1) := by
  constructor
  · intro h
    exact ⟨h.nodes, h.channels, fun entry hentry n' hn' ↦
      h.node entry.1 entry.2 n' (OrderedMap.get?_eq_some_iff.2 hentry) hn'⟩
  · rintro ⟨nodes, channels, hnode⟩
    exact ⟨nodes, channels, fun name n n' hn hn' ↦
      hnode (name, n) (OrderedMap.get?_eq_some_iff.1 hn) n' hn'⟩

instance (g g' : Graph) (ν κ : String → String) (ι : String → String → String) :
    Decidable (g.Alike g' ν κ ι) :=
  decidable_of_iff _ Graph.alike_iff.symm

/-- What is published for a node is the same as for another one, up to the names of its type
parameters. -/
structure Node.SameTypes (n n' : Node) (ι : String → String) : Prop where
  /-- The same pins have types, and the same ones. -/
  pins : ∀ pin, n'.pinTypes.get? pin = n.pinTypes.get? pin
  /-- Every parameter has the same text. -/
  params : ∀ i ∈ n.declaredIdents, ∃ text,
    n.typeParams.get? i = some text ∧ n'.typeParams.get? (ι i) = some text

/-- What is published for a graph is the same as for another one, up to names. -/
structure Graph.SameTypes (g g' : Graph) (ν κ : String → String) (ι : String → String → String) :
    Prop where
  /-- Every channel has the same type. -/
  channel : ∀ channel c, g.channels.get? channel = some c → ∃ c' t,
    g'.channels.get? (κ channel) = some c' ∧ c.type = some t ∧ c'.type = some t
  /-- The same is published for every node. -/
  node : ∀ name n, g.nodes.get? name = some n → ∃ n',
    g'.nodes.get? (ν name) = some n' ∧ n.SameTypes n' (ι name)

namespace Node.Alike

variable {n n' : Node} {channels : List String} {κ ι : String → String} {x : String}

/-- A pin of a node is declared at an alike one with its type renamed. -/
theorem exists_declared (h : n.Alike n' channels κ ι) {declared : Pin}
    (hdeclared : n.pins.get? x = some declared) : ∃ declared', n'.pins.get? x = some declared' ∧
      declared'.type.tree = declared.type.tree.rename fun q ↦ ⟨q.scope, ι q.ident⟩ := by
  have htree := h.declared x (OrderedMap.mem_iff_exists.2 ⟨declared, hdeclared⟩)
  rw [hdeclared] at htree
  exact Option.map_eq_some_iff.1 htree

theorem exists_declared_of_renamed (h : n.Alike n' channels κ ι) {declared' : Pin}
    (hdeclared' : n'.pins.get? x = some declared') : ∃ declared, n.pins.get? x = some declared ∧
      declared'.type.tree = declared.type.tree.rename fun q ↦ ⟨q.scope, ι q.ident⟩ := by
  have hpin : x ∈ n.pins.keys :=
    h.pins.mem_iff.1 (OrderedMap.mem_iff_exists.2 ⟨declared', hdeclared'⟩)
  obtain ⟨declared, hdeclared⟩ := OrderedMap.mem_iff_exists.1 (OrderedMap.mem_iff.2 hpin)
  obtain ⟨_, heq, htree⟩ := h.exists_declared hdeclared
  obtain rfl := Option.some.inj (hdeclared'.symm.trans heq)
  exact ⟨declared, hdeclared, htree⟩

/-- The parameters of the node are the renamed ones. -/
theorem mem_declaredIdents_iff (h : n.Alike n' channels κ ι) {j : String} :
    j ∈ n'.declaredIdents ↔ ∃ i ∈ n.declaredIdents, ι i = j := by
  rw [Node.mem_declaredIdents_iff]
  constructor
  · rintro ⟨x, declared', hdeclared', q', hq', rfl⟩
    obtain ⟨declared, hdeclared, htree⟩ := h.exists_declared_of_renamed hdeclared'
    rw [htree, TypeExpr.params_rename] at hq'
    obtain ⟨q, hq, rfl⟩ := List.mem_map.1 hq'
    exact ⟨q.ident, Node.mem_declaredIdents_iff.2 ⟨x, declared, hdeclared, q, hq, rfl⟩, rfl⟩
  · rintro ⟨i, hi, rfl⟩
    obtain ⟨x, declared, hdeclared, q, hq, rfl⟩ := Node.mem_declaredIdents_iff.1 hi
    obtain ⟨declared', hdeclared', htree⟩ := h.exists_declared hdeclared
    refine ⟨x, declared', hdeclared', ⟨q.scope, ι q.ident⟩, ?_, rfl⟩
    rw [htree, TypeExpr.params_rename]
    exact List.mem_map.2 ⟨q, hq, rfl⟩

end Node.Alike

namespace Graph

variable {g g' : Graph} {ν κ : String → String} {ι : String → String → String}
  {channel name : String} {pin pin' : PinRef} {e e' default : TypeExpr} {q : TypeParam}

/-- The type parameters of the nodes of a graph. -/
def declaredParams (g : Graph) : Set TypeParam :=
  {q | ∃ n, g.nodes.get? q.scope = some n ∧ q.ident ∈ n.declaredIdents}

/-- The parameters in the type of a wired pin are declared. -/
theorem Wired.mem_declaredParams (h : g.Wired channel pin e) (hq : q ∈ e.params) :
    q ∈ g.declaredParams := by
  obtain ⟨n, declared, hn, hdeclared, -, rfl⟩ := h
  rw [DeclaredType.inScope, TypeExpr.params_inScope] at hq
  obtain ⟨i, hi, rfl⟩ := List.mem_map.1 hq
  exact ⟨n, hn, Node.mem_declaredIdents_iff.2 ⟨_, declared, hdeclared, List.mem_map.1 hi⟩⟩

theorem Wired.mem_nodes (h : g.Wired channel pin e) : pin.node ∈ g.nodes := by
  obtain ⟨n, _, hn, -⟩ := h
  exact OrderedMap.mem_iff_exists.2 ⟨n, hn⟩

/-- A declared type renamed in the empty scope is renamed in the scope of its node. -/
theorem inScope_rename (ν : String → String) (ι : String → String → String) (name : String)
    (e : TypeExpr) : (e.rename fun q ↦ ⟨q.scope, ι name q.ident⟩).inScope (ν name) =
      (e.inScope name).rename (.renamed ν ι) := by
  rw [TypeExpr.inScope, TypeExpr.substitute_rename, TypeExpr.inScope, TypeExpr.rename,
    TypeExpr.substitute_substitute]
  rfl

namespace Alike

/-! ### What corresponds to what -/

/-- The renamed node is alike. -/
theorem exists_node (h : g.Alike g' ν κ ι) {n : Node} (hn : g.nodes.get? name = some n) :
    ∃ n', g'.nodes.get? (ν name) = some n' ∧ n.Alike n' g.channels.keys κ (ι name) := by
  have hmem : ν name ∈ g'.nodes :=
    h.nodes.mem_iff.2 (List.mem_map.2 ⟨name, OrderedMap.mem_iff_exists.2 ⟨n, hn⟩, rfl⟩)
  obtain ⟨n', hn'⟩ := OrderedMap.mem_iff_exists.1 hmem
  exact ⟨n', hn', h.node name n n' hn hn'⟩

/-- All nodes of an alike graph are renamed ones. -/
theorem exists_node_of_renamed (h : g.Alike g' ν κ ι) {name' : String} {n' : Node}
    (hn' : g'.nodes.get? name' = some n') : ∃ name n, name' = ν name ∧
      g.nodes.get? name = some n ∧ n.Alike n' g.channels.keys κ (ι name) := by
  have hmem : name' ∈ g'.nodes.keys := OrderedMap.mem_iff_exists.2 ⟨n', hn'⟩
  obtain ⟨name, hname, rfl⟩ := List.mem_map.1 (h.nodes.mem_iff.1 hmem)
  obtain ⟨n, hn⟩ := OrderedMap.mem_iff_exists.1 (OrderedMap.mem_iff.2 hname)
  exact ⟨name, n, rfl, hn, h.node name n n' hn hn'⟩

/-- The channels of an alike graph are the renamed ones. -/
theorem mem_channels_iff (h : g.Alike g' ν κ ι) {channel' : String} :
    channel' ∈ g'.channels ↔ ∃ channel ∈ g.channels, κ channel = channel' := by
  rw [OrderedMap.mem_iff, h.channels.mem_iff, List.mem_map]
  rfl

/-- Different nodes have different new names. -/
theorem name_inj (h : g.Alike g' ν κ ι) {name' : String} (hname : name ∈ g.nodes)
    (hname' : name' ∈ g.nodes) (heq : ν name = ν name') : name = name' :=
  List.inj_on_of_nodup_map (h.nodes.nodup_iff.1 g'.nodes.nodup_keys) hname hname' heq

/-- Different parameters of the nodes are renamed to different ones. -/
theorem injOn_renamed (h : g.Alike g' ν κ ι) :
    Set.InjOn (TypeParam.renamed ν ι) g.declaredParams := by
  rintro ⟨name, i⟩ ⟨n, hn, hi⟩ ⟨name', j⟩ ⟨n', hn', hj⟩ heq
  obtain ⟨hname, hident⟩ := TypeParam.mk.inj heq
  obtain rfl : name = name' := h.name_inj (OrderedMap.mem_iff_exists.2 ⟨n, hn⟩)
    (OrderedMap.mem_iff_exists.2 ⟨n', hn'⟩) hname
  obtain rfl := Option.some.inj (hn.symm.trans hn')
  obtain ⟨_, -, halike⟩ := h.exists_node hn
  rw [halike.idents i hi j hj hident]

/-- The pins at a renamed channel are those at the channel, with their declared types renamed. -/
theorem wired_iff (h : g.Alike g' ν κ ι) (hchannel : channel ∈ g.channels) :
    g'.Wired (κ channel) pin' e' ↔ ∃ pin e, g.Wired channel pin e ∧
      pin' = ⟨ν pin.node, pin.pin⟩ ∧ e' = e.rename (.renamed ν ι) := by
  constructor
  · rintro ⟨n', declared', hn', hdeclared', hconnected', rfl⟩
    obtain ⟨name, n, hname, hn, halike⟩ := h.exists_node_of_renamed hn'
    obtain ⟨declared, hdeclared, htree⟩ := halike.exists_declared_of_renamed hdeclared'
    have hpin : pin'.pin ∈ n.pins := OrderedMap.mem_iff_exists.2 ⟨declared, hdeclared⟩
    -- alike nodes have pins connected to channels that are renamed into each other
    have hconnected := (halike.connected _ hpin channel hchannel).2 hconnected'
    refine ⟨⟨name, pin'.pin⟩, declared.type.inScope name,
      ⟨n, declared, hn, hdeclared, hconnected, rfl⟩, ?_, ?_⟩
    · rw [← hname]
    · rw [hname, DeclaredType.inScope, htree, inScope_rename]
      rfl
  · rintro ⟨⟨name, x⟩, _, ⟨n, declared, hn, hdeclared, hconnected, rfl⟩, rfl, rfl⟩
    obtain ⟨n', hn', halike⟩ := h.exists_node hn
    obtain ⟨declared', hdeclared', htree⟩ := halike.exists_declared hdeclared
    have hpin : x ∈ n.pins := OrderedMap.mem_iff_exists.2 ⟨declared, hdeclared⟩
    have hconnected' := (halike.connected x hpin channel hchannel).1 hconnected
    refine ⟨n', declared', hn', hdeclared', hconnected', ?_⟩
    rw [DeclaredType.inScope, htree, inScope_rename]
    rfl

/-- Graphs that are alike stay so without types. -/
theorem clearTypes (h : g.Alike g' ν κ ι) : g.clearTypes.Alike g'.clearTypes ν κ ι where
  nodes := by
    rw [keys_nodes_clearTypes, keys_nodes_clearTypes]
    exact h.nodes
  channels := by
    rw [keys_channels_clearTypes, keys_channels_clearTypes]
    exact h.channels
  node := by
    intro name _ _ hn hn'
    rw [get?_nodes_clearTypes, Option.map_eq_some_iff] at hn hn'
    obtain ⟨n, hn, rfl⟩ := hn
    obtain ⟨n', hn', rfl⟩ := hn'
    rw [keys_channels_clearTypes]
    have halike := h.node name n n' hn hn'
    exact ⟨halike.idents, halike.pins, halike.declared, halike.connected⟩

/-! ### Solutions of renamed constraints -/

/-- A solution for the renamed graph is one for the graph: its values at the new names. -/
theorem solution_comp (h : g.Alike g' ν κ ι) {σ : TypeParam → TypeExpr} (hσ : g'.Solution σ) :
    g.Solution fun q ↦ σ (q.renamed ν ι) := by
  intro channel hchannel pin e pin' e' hwired hwired'
  have hrenamed := hσ (κ channel) (h.mem_channels_iff.2 ⟨channel, hchannel, rfl⟩) _ _ _ _
    ((h.wired_iff hchannel).2 ⟨pin, e, hwired, rfl, rfl⟩)
    ((h.wired_iff hchannel).2 ⟨pin', e', hwired', rfl, rfl⟩)
  rwa [TypeExpr.substitute_rename, TypeExpr.substitute_rename] at hrenamed

/-- A solution for a graph has its values at the new names in some solution for the renamed
graph. -/
theorem exists_solution (h : g.Alike g' ν κ ι) {σ : TypeParam → TypeExpr} (hσ : g.Solution σ) :
    ∃ σ', g'.Solution σ' ∧ ∀ q ∈ g.declaredParams, σ' (q.renamed ν ι) = σ q := by
  -- the renaming need not be injective beyond the parameters of the nodes
  obtain ⟨σ', hσ'⟩ : ∃ σ' : TypeParam → TypeExpr,
      ∀ q ∈ g.declaredParams, σ' (q.renamed ν ι) = σ q := by
    refine ⟨Function.extend (fun q : g.declaredParams ↦ q.1.renamed ν ι) (fun q ↦ σ q.1) .param,
      fun q hq ↦ ?_⟩
    exact h.injOn_renamed.injective.extend_apply _ _ ⟨q, hq⟩
  have hsubstitute : ∀ {channel pin e}, g.Wired channel pin e →
      (e.rename (.renamed ν ι)).substitute σ' = e.substitute σ := by
    intro channel pin e hwired
    rw [TypeExpr.substitute_rename]
    exact TypeExpr.substitute_congr fun q hq ↦ hσ' q (hwired.mem_declaredParams hq)
  refine ⟨σ', fun channel' hchannel' pin₁ e₁ pin₂ e₂ hwired₁ hwired₂ ↦ ?_, hσ'⟩
  obtain ⟨channel, hchannel, rfl⟩ := h.mem_channels_iff.1 hchannel'
  obtain ⟨pin, e, hwired, -, rfl⟩ := (h.wired_iff hchannel).1 hwired₁
  obtain ⟨pin', e', hwired', -, rfl⟩ := (h.wired_iff hchannel).1 hwired₂
  rw [hsubstitute hwired, hsubstitute hwired']
  exact hσ channel hchannel pin e pin' e' hwired hwired'

/-- Graphs that are alike have solutions both or neither. -/
theorem exists_solution_iff (h : g.Alike g' ν κ ι) :
    (∃ σ, g'.Solution σ) ↔ ∃ σ, g.Solution σ := by
  constructor
  · rintro ⟨σ, hσ⟩
    exact ⟨_, h.solution_comp hσ⟩
  · rintro ⟨σ, hσ⟩
    obtain ⟨σ', hσ', -⟩ := h.exists_solution hσ
    exact ⟨σ', hσ'⟩

/-- Most general solutions for a graph and for the renamed graph are instances of each other, so
with the default for the parameters that are left they give the same type. -/
theorem groundWith_rename (h : g.Alike g' ν κ ι) {μ μ' : TypeParam → TypeExpr}
    (hμ : g.MostGeneralSolution μ) (hμ' : g'.MostGeneralSolution μ')
    (he : ∀ q ∈ e.params, q ∈ g.declaredParams) (default : TypeExpr) :
    ((e.rename (.renamed ν ι)).substitute μ').groundWith default =
      (e.substitute μ).groundWith default := by
  obtain ⟨σ, hσ, hback⟩ := h.exists_solution hμ.solution
  -- `μ'` seen under the old names is a solution, so it factors through `μ`
  have hinstance : (e.substitute μ).substitute (fun q ↦ μ' (q.renamed ν ι)) =
      (e.rename (.renamed ν ι)).substitute μ' := by
    rw [TypeExpr.substitute_substitute, TypeExpr.substitute_rename]
    exact TypeExpr.substitute_congr fun q _ ↦ hμ.factors _ (h.solution_comp hμ'.solution) q
  -- and `σ`, which is `μ` under the new names, factors through `μ'`
  have hreturn : ((e.rename (.renamed ν ι)).substitute μ').substitute σ = e.substitute μ := by
    rw [TypeExpr.substitute_substitute, TypeExpr.substitute_rename]
    refine TypeExpr.substitute_congr fun q hq ↦ ?_
    rw [hμ'.factors σ hσ, hback q (he q hq)]
  rw [← hinstance] at hreturn ⊢
  exact TypeExpr.groundWith_substitute hreturn default

end Alike

/-! ### How inferences end -/

/-- An inference stops because types are incompatible. -/
def StopsIncompatible (g : Graph) (default : TypeExpr) : Prop :=
  ∃ channel pin conflict message reached,
    g.infer default = .error ⟨.incompatible channel pin conflict message, reached⟩

theorem StopsIncompatible.not_ok (h : g.StopsIncompatible default) :
    ¬∃ r, g.infer default = .ok r := by
  obtain ⟨_, _, _, _, _, hstop⟩ := h
  rintro ⟨r, hrun⟩
  cases hstop.symm.trans hrun

namespace CachesCurrent

/-- With current caches an inference stops because types are incompatible, and there is no solution,
or it writes what its last state says. -/
theorem infer_cases (hcurrent : g.CachesCurrent) (default : TypeExpr) :
    (g.StopsIncompatible default ∧ ¬∃ σ, g.Solution σ) ∨
      ∃ p, Pass.Solved g.clearTypes p ∧ g.infer default = p.commit default g.clearTypes := by
  rcases g.infer_eq_error_or_commit default with ⟨f, hrun, hf⟩ | hwrites
  · obtain ⟨⟨channel, pin, conflict, message, rfl⟩, hnone⟩ := hcurrent.exists_incompatible hf
    exact .inl ⟨⟨channel, pin, conflict, message, _, hrun⟩, hnone⟩
  · exact .inr hwrites

/-- An inference stops because types are incompatible exactly if the constraints have no
solution. -/
theorem stopsIncompatible_iff (hcurrent : g.CachesCurrent) (default : TypeExpr) :
    g.StopsIncompatible default ↔ ¬∃ σ, g.Solution σ := by
  rcases hcurrent.infer_cases default with ⟨hstop, hnone⟩ | ⟨p, hp, hrun⟩
  · exact iff_of_true hstop hnone
  · have hμ := mostGeneralSolution_of_solved hcurrent hp
    refine iff_of_false ?_ fun hnone ↦ hnone ⟨_, hμ.solution⟩
    rintro ⟨channel, pin, conflict, message, reached, hstop⟩
    obtain ⟨f, hf⟩ := Pass.exists_stopped_of_commit hp.toSound (hrun.symm.trans hstop)
    cases hf

end CachesCurrent

/-! ### Renamed results -/

namespace Alike

section Published

variable {p p' : Pass} (h : g.Alike g' ν κ ι) (hcurrent : g.CachesCurrent)
  (hcurrent' : g'.CachesCurrent) (hp : Pass.Solved g p) (hp' : Pass.Solved g' p')

include h hcurrent hcurrent' hp hp'

/-- Renaming does not change final types. -/
theorem finalType_rename (he : ∀ q ∈ e.params, q ∈ g.declaredParams) :
    p'.finalType default (e.rename (.renamed ν ι)) = p.finalType default e :=
  h.groundWith_rename (hcurrent.mostGeneralSolution hp) (hcurrent'.mostGeneralSolution hp') he
    default

/-- A renamed parameter has the same final type. -/
theorem finalType_param {n : Node} (hn : g.nodes.get? name = some n) {i : String}
    (hi : i ∈ n.declaredIdents) :
    p'.finalType default (.param ⟨ν name, ι name i⟩) =
      p.finalType default (.param ⟨name, i⟩) := by
  have hdeclared : ∀ q ∈ (TypeExpr.param ⟨name, i⟩).params, q ∈ g.declaredParams := by
    intro q hq
    rw [List.mem_singleton.1 hq]
    exact ⟨n, hn, hi⟩
  exact h.finalType_rename hcurrent hcurrent' hp hp' hdeclared

/-- A renamed pin has the same final type. -/
theorem finalType_wired (hwired : g.Wired channel pin e) :
    p'.finalType default (e.rename (.renamed ν ι)) = p.finalType default e :=
  h.finalType_rename hcurrent hcurrent' hp hp' fun _ ↦ hwired.mem_declaredParams

/-- Parameters have texts if the renamed ones have. -/
theorem paramsWritable_iff (default : TypeExpr) :
    (∀ name n, g.nodes.get? name = some n → p.ParamsWritable default name n) ↔
      ∀ name n, g'.nodes.get? name = some n → p'.ParamsWritable default name n := by
  constructor
  · intro hwritable name' n' hn' j hj
    obtain ⟨name, n, rfl, hn, halike⟩ := h.exists_node_of_renamed hn'
    obtain ⟨i, hi, rfl⟩ := halike.mem_declaredIdents_iff.1 hj
    rw [h.finalType_param hcurrent hcurrent' hp hp' hn hi]
    exact hwritable name n hn i hi
  · intro hwritable name n hn i hi
    obtain ⟨n', hn', halike⟩ := h.exists_node hn
    rw [← h.finalType_param hcurrent hcurrent' hp hp' hn hi]
    exact hwritable _ n' hn' _ (halike.mem_declaredIdents_iff.2 ⟨i, hi, rfl⟩)

/-- A renamed channel gets the same type. -/
theorem type_publishedChannel (hconcrete : default.isConcrete) (hchannel : channel ∈ g.channels)
    (c c' : Channel) : (p'.publishedChannel default (κ channel) c').type =
      (p.publishedChannel default channel c).type := by
  have hrenamed : κ channel ∈ g'.channels := h.mem_channels_iff.2 ⟨channel, hchannel, rfl⟩
  -- without pins there is no type to compare, but then both channels get the default
  by_cases hpins : ∃ pin e, g.Wired channel pin e
  · obtain ⟨pin, e, hwired⟩ := hpins
    have hwired' := (h.wired_iff hchannel).2 ⟨pin, e, hwired, rfl, rfl⟩
    rw [type_publishedChannel_of_wired hcurrent hp hchannel hwired,
      type_publishedChannel_of_wired hcurrent' hp' hrenamed hwired',
      h.finalType_wired hcurrent hcurrent' hp hp' hwired]
  · have hnone : ∀ pin e, ¬g.Wired channel pin e := fun pin e hwired ↦ hpins ⟨pin, e, hwired⟩
    have hnone' : ∀ pin' e', ¬g'.Wired (κ channel) pin' e' := by
      intro pin' e' hwired'
      obtain ⟨pin, e, hwired, -⟩ := (h.wired_iff hchannel).1 hwired'
      exact hnone pin e hwired
    rw [type_publishedChannel_of_not_wired hcurrent hp hconcrete hchannel hnone,
      type_publishedChannel_of_not_wired hcurrent' hp' hconcrete hrenamed hnone']

/-- A pin of a renamed node gets the same type. -/
theorem pinTypes_publishedNode {n n' : Node} (hn : g.nodes.get? name = some n)
    (hn' : g'.nodes.get? (ν name) = some n') (x : String) :
    (p'.publishedNode default (ν name) n').pinTypes.get? x =
      (p.publishedNode default name n).pinTypes.get? x := by
  apply Option.ext
  intro t
  rw [get?_pinTypes_publishedNode_iff hp hn, get?_pinTypes_publishedNode_iff hp' hn']
  constructor
  · rintro ⟨channel', hchannel', e', hwired', rfl⟩
    obtain ⟨channel, hchannel, rfl⟩ := h.mem_channels_iff.1 hchannel'
    obtain ⟨⟨name', x'⟩, e, hwired, hpin, rfl⟩ := (h.wired_iff hchannel).1 hwired'
    obtain ⟨hname, rfl⟩ := PinRef.mk.inj hpin
    obtain rfl : name = name' :=
      h.name_inj (OrderedMap.mem_iff_exists.2 ⟨n, hn⟩) hwired.mem_nodes hname
    exact ⟨channel, hchannel, e, hwired, h.finalType_wired hcurrent hcurrent' hp hp' hwired⟩
  · rintro ⟨channel, hchannel, e, hwired, rfl⟩
    exact ⟨κ channel, h.mem_channels_iff.2 ⟨channel, hchannel, rfl⟩, e.rename (.renamed ν ι),
      (h.wired_iff hchannel).2 ⟨_, e, hwired, rfl, rfl⟩,
      (h.finalType_wired hcurrent hcurrent' hp hp' hwired).symm⟩

/-- A renamed parameter gets the same text. -/
theorem typeParams_publishedNode {n n' : Node} (hn : g.nodes.get? name = some n)
    (halike : n.Alike n' g.channels.keys κ (ι name)) (hwritable : p.ParamsWritable default name n)
    (hwritable' : p'.ParamsWritable default (ν name) n') {i : String} (hi : i ∈ n.declaredIdents) :
    ∃ text, (p.publishedNode default name n).typeParams.get? i = some text ∧
      (p'.publishedNode default (ν name) n').typeParams.get? (ι name i) = some text := by
  obtain ⟨text, htext, hwritten⟩ := Pass.exists_text hp.acyclic hwritable hi
  obtain ⟨text', htext', hwritten'⟩ :=
    Pass.exists_text hp'.acyclic hwritable' (halike.mem_declaredIdents_iff.2 ⟨i, hi, rfl⟩)
  rw [h.finalType_param hcurrent hcurrent' hp hp' hn hi, hwritten] at hwritten'
  obtain rfl := Except.ok.inj hwritten'
  exact ⟨text, htext, htext'⟩

/-- Graphs that are alike have the same types published at renamed places. -/
theorem sameTypes_published (hconcrete : default.isConcrete)
    (hwritable : ∀ name n, g.nodes.get? name = some n → p.ParamsWritable default name n)
    (hwritable' : ∀ name n, g'.nodes.get? name = some n → p'.ParamsWritable default name n) :
    (p.published default g).SameTypes (p'.published default g') ν κ ι where
  channel := by
    intro channel _ hc
    rw [Pass.get?_channels_published, Option.map_eq_some_iff] at hc
    obtain ⟨c, hc, rfl⟩ := hc
    have hchannel : channel ∈ g.channels := OrderedMap.mem_iff_exists.2 ⟨c, hc⟩
    obtain ⟨c', hc'⟩ :=
      OrderedMap.mem_iff_exists.1 (h.mem_channels_iff.2 ⟨channel, hchannel, rfl⟩)
    refine ⟨p'.publishedChannel default (κ channel) c', _, ?_, rfl, ?_⟩
    · rw [Pass.get?_channels_published, hc']
      rfl
    · exact h.type_publishedChannel hcurrent hcurrent' hp hp' hconcrete hchannel c c'
  node := by
    intro name _ hn
    rw [Pass.get?_nodes_published, Option.map_eq_some_iff] at hn
    obtain ⟨n, hn, rfl⟩ := hn
    obtain ⟨n', hn', halike⟩ := h.exists_node hn
    refine ⟨p'.publishedNode default (ν name) n', ?_, ?_, fun i hi ↦ ?_⟩
    · rw [Pass.get?_nodes_published, hn']
      rfl
    · exact h.pinTypes_publishedNode hcurrent hcurrent' hp hp' hn hn'
    · exact h.typeParams_publishedNode hcurrent hcurrent' hp hp' hn halike (hwritable name n hn)
        (hwritable' _ n' hn') hi

end Published

/-- Two graphs with current caches that are the same up to names and order are inferred alike, with
the same concrete default: both inferences succeed or neither does, both stop because types are
incompatible or neither does, and no other end is possible if the default has a text. If both
succeed, corresponding channels and pins have the same types and corresponding parameters the same
texts. -/
theorem infer_sameTypes (h : g.Alike g' ν κ ι) (hcurrent : g.CachesCurrent)
    (hcurrent' : g'.CachesCurrent) (hconcrete : default.isConcrete) :
    ((∃ r, g.infer default = .ok r) ↔ ∃ r', g'.infer default = .ok r') ∧
      (g.StopsIncompatible default ↔ g'.StopsIncompatible default) ∧
      (default.IsWritable → (∃ r, g.infer default = .ok r) ∨ g.StopsIncompatible default) ∧
      ∀ r r', g.infer default = .ok r → g'.infer default = .ok r' → r.SameTypes r' ν κ ι := by
  have hstops : g.StopsIncompatible default ↔ g'.StopsIncompatible default := by
    rw [hcurrent.stopsIncompatible_iff, hcurrent'.stopsIncompatible_iff, h.exists_solution_iff]
  rcases hcurrent.infer_cases default with ⟨hstop, -⟩ | ⟨p, hp, hrun⟩
  · exact ⟨iff_of_false hstop.not_ok (hstops.1 hstop).not_ok, hstops, fun _ ↦ .inr hstop,
      fun r _ hr _ ↦ absurd ⟨r, hr⟩ hstop.not_ok⟩
  rcases hcurrent'.infer_cases default with ⟨-, hnone⟩ | ⟨p', hp', hrun'⟩
  · have hμ := mostGeneralSolution_of_solved hcurrent hp
    exact absurd (h.exists_solution_iff.2 ⟨_, hμ.solution⟩) hnone
  -- both write their results, which fails at a text or not at all
  have hwritable :=
    h.clearTypes.paramsWritable_iff hcurrent.clearTypes hcurrent'.clearTypes hp hp' default
  refine ⟨?_, hstops,
    fun hdefault ↦ .inl ⟨_, hrun.trans (Pass.commit_eq hp.toSound hdefault)⟩, fun r r' hr hr' ↦ ?_⟩
  · simp only [hrun, hrun', Pass.commit_eq_ok_iff hp.toSound, Pass.commit_eq_ok_iff hp'.toSound,
      exists_and_left, exists_eq', and_true]
    exact hwritable
  · obtain ⟨hok, rfl⟩ := (Pass.commit_eq_ok_iff hp.toSound).1 (hrun.symm.trans hr)
    obtain ⟨hok', rfl⟩ := (Pass.commit_eq_ok_iff hp'.toSound).1 (hrun'.symm.trans hr')
    exact h.clearTypes.sameTypes_published hcurrent.clearTypes hcurrent'.clearTypes hp hp' hconcrete
      hok hok'

end Alike

/-- A map whose keys are strings. The type of its values is left open. -/
def keyed : Graph where
  nodes := .ofList [
    ("maker", {
      part := .code { pins := .ofList [
        ("keys", ⟨⟨"$K", .param ⟨"", "K"⟩, DeclaredType.ofText_of_toOption (by decide +kernel)⟩,
          .input⟩),
        ("output", ⟨⟨"map[$K]$V", .compound "map" [.param ⟨"", "K"⟩, .param ⟨"", "V"⟩],
          DeclaredType.ofText_of_toOption (by decide +kernel)⟩, .output⟩)] }
      connections := .ofList [("keys", .string "names"), ("output", .string "table")] }),
    ("reader", {
      part := .transform [] ""
      connections := .ofList [("input", .string "table"), ("output", noConnection)] }),
    ("source", {
      part := .code { pins := .ofList [("output", ⟨⟨"string", .name "string",
        DeclaredType.ofText_of_toOption (by decide +kernel)⟩, .output⟩)] }
      connections := .ofList [("output", .string "names")] })]
  channels := .ofList [
    ("names", { pins := [⟨"maker", "keys"⟩, ⟨"source", "output"⟩].foldl PinSet.insert ∅ }),
    ("table", { pins := [⟨"maker", "output"⟩, ⟨"reader", "input"⟩].foldl PinSet.insert ∅ })]

/-- The same with the names of the type parameters exchanged, another name for the first node, for
which it comes last, and channels and pins the other way round. -/
def keyedLast : Graph where
  nodes := .ofList [
    ("source", {
      part := .code { pins := .ofList [("output", ⟨⟨"string", .name "string",
        DeclaredType.ofText_of_toOption (by decide +kernel)⟩, .output⟩)] }
      connections := .ofList [("output", .string "keys")] }),
    ("reader", {
      part := .transform [] ""
      connections := .ofList [("output", noConnection), ("input", .string "map")] }),
    ("writer", {
      part := .code { pins := .ofList [
        ("output", ⟨⟨"map[$V]$K", .compound "map" [.param ⟨"", "V"⟩, .param ⟨"", "K"⟩],
          DeclaredType.ofText_of_toOption (by decide +kernel)⟩, .output⟩),
        ("keys", ⟨⟨"$V", .param ⟨"", "V"⟩, DeclaredType.ofText_of_toOption (by decide +kernel)⟩,
          .input⟩)] }
      connections := .ofList [("output", .string "map"), ("keys", .string "keys")] })]
  channels := .ofList [
    ("map", { pins := [⟨"reader", "input"⟩, ⟨"writer", "output"⟩].foldl PinSet.insert ∅ }),
    ("keys", { pins := [⟨"source", "output"⟩, ⟨"writer", "keys"⟩].foldl PinSet.insert ∅ })]

/-- The parameters of the map have exchanged their names, not their texts. -/
theorem Alike.infer_sameTypes_keyed :
    ∃ ν κ ι, keyed.Alike keyedLast ν κ ι ∧ keyed.CachesCurrent ∧ keyedLast.CachesCurrent ∧
      (TypeExpr.name "int").isConcrete ∧ ∃ r r' n', keyed.infer (.name "int") = .ok r ∧
        keyedLast.infer (.name "int") = .ok r' ∧ r.SameTypes r' ν κ ι ∧
        r'.nodes.get? "writer" = some n' ∧ n'.typeParams.get? "V" = some "string" ∧
        n'.typeParams.get? "K" = some "int" := by
  have halike : keyed.Alike keyedLast (fun name ↦ if name = "maker" then "writer" else name)
      (fun channel ↦ if channel = "names" then "keys" else "map")
      (fun _ i ↦ if i = "K" then "V" else if i = "V" then "K" else i) := by
    decide +kernel
  have hcurrent : keyed.CachesCurrent := by decide +kernel
  have hcurrent' : keyedLast.CachesCurrent := by decide +kernel
  have hrun : ((keyed.infer (.name "int")).toOption.bind fun r ↦ (r.nodes.get? "maker").map fun n ↦
      (n.declaredIdents, n.typeParams.entries)) =
        some (["K", "V"], [("K", "string"), ("V", "int")]) := by
    cbv
  obtain ⟨hok, -, -, hsame⟩ :=
    halike.infer_sameTypes hcurrent hcurrent' (rfl : (TypeExpr.name "int").isConcrete)
  refine ⟨_, _, _, halike, hcurrent, hcurrent', rfl, ?_⟩
  cases hinfer : keyed.infer (.name "int") with
  | error i =>
    rw [hinfer] at hrun
    cases hrun
  | ok r =>
    rw [hinfer] at hrun
    obtain ⟨n, hn, hvalues⟩ := Option.map_eq_some_iff.1 hrun
    obtain ⟨hidents, hentries⟩ := Prod.mk.inj hvalues
    obtain ⟨r', hinfer'⟩ := hok.1 ⟨r, hinfer⟩
    have hsameTypes := hsame r r' hinfer hinfer'
    obtain ⟨n', hn', hnode⟩ := hsameTypes.node "maker" n hn
    have htext : ∀ i text, i ∈ n.declaredIdents → n.typeParams.get? i = some text →
        n'.typeParams.get? (if i = "K" then "V" else if i = "V" then "K" else i) = some text := by
      intro i text hi htext
      obtain ⟨text', htext', hrenamed⟩ := hnode.params i hi
      rwa [Option.some.inj (htext'.symm.trans htext)] at hrenamed
    have hkey : n.typeParams.get? "K" = some "string" := by
      rw [OrderedMap.get?_eq_some_iff, hentries]
      decide
    have hvalue : n.typeParams.get? "V" = some "int" := by
      rw [OrderedMap.get?_eq_some_iff, hentries]
      decide
    exact ⟨r, r', n', rfl, hinfer', hsameTypes, hn',
      htext "K" "string" (by rw [hidents]; decide) hkey,
      htext "V" "int" (by rw [hidents]; decide) hvalue⟩

end Graph

end ChannelGraph
