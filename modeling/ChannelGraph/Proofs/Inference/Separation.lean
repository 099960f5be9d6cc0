import ChannelGraph.Proofs.Inference.Frame
import ChannelGraph.Proofs.Inference.Renaming

/-!
# Graphs that fall apart

If no channel has pins on both sides of a division of the nodes (`Graph.Separates`), then to infer
the types of a graph is to infer those of its two sides, each with its own channels
(`Separates.tryInfer_ok_iff`, `Separates.tryInfer_restrict`).

On the way the two sides get mixed: there is one queue and one set of bindings for all nodes. But
the parameters of different nodes are different, so solutions for the two sides can be put together
to one for the graph (`Separates.solution_ite`), and a most general solution for the graph is one
for a side on the parameters of this side (`Separates.groundWith_eq`).
-/

namespace ChannelGraph

namespace TypeExpr

variable {f g : TypeParam → TypeExpr} {e e' : TypeExpr}

/-- Types that are instances of each other become equal where one type is put in for all
parameters. -/
theorem groundWith_eq_of_instances (h : e.substitute f = e') (h' : e'.substitute g = e)
    (default : TypeExpr) : e.groundWith default = e'.groundWith default := by
  rw [← h] at h' ⊢
  exact (groundWith_substitute h' default).symm

end TypeExpr

namespace Graph

variable {g r : Graph} {side share : String → Bool} {channel name : String} {pin : PinRef}
  {e default : TypeExpr} {q : TypeParam} {n : Node}

/-! ### The sides of a graph -/

/-- Some nodes of a graph with some of its channels. -/
def restrict (g : Graph) (side share : String → Bool) : Graph :=
  { g with
    nodes := g.nodes.filter fun name _ ↦ side name
    channels := g.channels.filter fun channel _ ↦ share channel }

/-- The nodes and the channels of a graph are divided in such a way that the pins at a channel are
on its side. -/
def Separates (g : Graph) (side share : String → Bool) : Prop :=
  ∀ channel ∈ g.channels, ∀ pin e, g.Wired channel pin e → share channel = side pin.node

/-- The channels can be divided like the nodes exactly if no channel has pins of both sides. -/
theorem exists_separates_iff : (∃ share, g.Separates side share) ↔
    ∀ channel ∈ g.channels, ∀ pin e pin' e', g.Wired channel pin e → g.Wired channel pin' e' →
      side pin.node = side pin'.node := by
  constructor
  · rintro ⟨share, hsep⟩ channel hchannel pin e pin' e' hwired hwired'
    rw [← hsep channel hchannel pin e hwired, hsep channel hchannel pin' e' hwired']
  · intro h
    classical
    refine ⟨fun channel ↦ decide (∃ pin e, g.Wired channel pin e ∧ side pin.node = true), ?_⟩
    intro channel hchannel pin e hwired
    cases hside : side pin.node with
    | true => exact decide_eq_true ⟨pin, e, hwired, hside⟩
    | false =>
      refine decide_eq_false ?_
      rintro ⟨pin', e', hwired', hside'⟩
      rw [h channel hchannel pin e pin' e' hwired hwired', hside'] at hside
      cases hside

/-- A graph separates its sides if the pins wired to each channel are on the side of the channel,
which can be decided. -/
theorem separates_iff : g.Separates side share ↔
    ∀ channel ∈ g.channels.keys, ∀ pin ∈ g.wiredTo channel, share channel = side pin.node := by
  constructor
  · intro h channel hchannel pin hpin
    obtain ⟨e, hwired⟩ := mem_wiredTo_iff.1 hpin
    exact h channel hchannel pin e hwired
  · intro h channel hchannel pin e hwired
    exact h channel hchannel pin (mem_wiredTo_iff.2 ⟨e, hwired⟩)

instance (g : Graph) (side share : String → Bool) : Decidable (g.Separates side share) :=
  decidable_of_iff _ separates_iff.symm

theorem get?_nodes_restrict_iff : (g.restrict side share).nodes.get? name = some n ↔
    g.nodes.get? name = some n ∧ side name = true :=
  OrderedMap.get?_filter_keys

theorem get?_channels_restrict_iff {c : Channel} :
    (g.restrict side share).channels.get? channel = some c ↔
      g.channels.get? channel = some c ∧ share channel = true :=
  OrderedMap.get?_filter_keys

theorem mem_channels_restrict : channel ∈ (g.restrict side share).channels ↔
    channel ∈ g.channels ∧ share channel = true :=
  OrderedMap.mem_filter_keys

theorem clearTypes_restrict (g : Graph) (side share : String → Bool) :
    (g.restrict side share).clearTypes = g.clearTypes.restrict side share := by
  unfold restrict clearTypes
  dsimp only
  rw [OrderedMap.map_filter_keys, OrderedMap.map_filter_keys]

/-- The connections of a side are those of its nodes. -/
theorem wired_restrict_iff :
    (g.restrict side share).Wired channel pin e ↔ g.Wired channel pin e ∧ side pin.node = true := by
  constructor
  · rintro ⟨n, declared, hn, hdeclared, hconnected, he⟩
    obtain ⟨hn, hside⟩ := get?_nodes_restrict_iff.1 hn
    exact ⟨⟨n, declared, hn, hdeclared, hconnected, he⟩, hside⟩
  · rintro ⟨⟨n, declared, hn, hdeclared, hconnected, he⟩, hside⟩
    exact ⟨n, declared, get?_nodes_restrict_iff.2 ⟨hn, hside⟩, hdeclared, hconnected, he⟩

/-- A declared type mentions parameters of its own node only. -/
theorem Wired.scope_eq (h : g.Wired channel pin e) (hq : q ∈ e.params) : q.scope = pin.node := by
  obtain ⟨n, declared, -, -, -, rfl⟩ := h
  rw [DeclaredType.inScope, TypeExpr.params_inScope] at hq
  obtain ⟨i, -, rfl⟩ := List.mem_map.1 hq
  rfl

namespace Separates

theorem not (h : g.Separates side share) :
    g.Separates (fun name ↦ !side name) fun channel ↦ !share channel := by
  intro channel hchannel pin e hwired
  exact congrArg Bool.not (h channel hchannel pin e hwired)

theorem clearTypes (h : g.Separates side share) : g.clearTypes.Separates side share := by
  intro channel hchannel pin e hwired
  exact h channel (mem_channels_clearTypes.1 hchannel) pin e (wired_clearTypes_iff.1 hwired)

/-- The caches of a side are as current as those of the graph. -/
theorem cachesCurrent_restrict (h : g.Separates side share) (hcurrent : g.CachesCurrent) :
    (g.restrict side share).CachesCurrent := by
  intro channel c hc pin
  obtain ⟨hc, hshare⟩ := get?_channels_restrict_iff.1 hc
  rw [hcurrent channel c hc pin]
  simp only [wired_restrict_iff]
  constructor
  · rintro ⟨e, hwired⟩
    refine ⟨e, hwired, ?_⟩
    rw [← h channel (OrderedMap.mem_iff_exists.2 ⟨c, hc⟩) pin e hwired, hshare]
  · rintro ⟨e, hwired, -⟩
    exact ⟨e, hwired⟩

/-! ### Solutions -/

section Solutions

variable {σ σ' μ μ' : TypeParam → TypeExpr}

/-- What a solution for the sides is put together from is seen at the pins of each channel. -/
private theorem substitute_ite (hwired : g.Wired channel pin e) (b : Bool)
    (hside : side pin.node = b) :
    e.substitute (fun q ↦ if side q.scope then σ q else σ' q) =
      e.substitute (if b then σ else σ') := by
  refine TypeExpr.substitute_congr fun q hq ↦ ?_
  rw [hwired.scope_eq hq, hside]
  cases b <;> rfl

/-- A solution for a graph is one for each of its sides. -/
theorem solution_restrict (hσ : g.Solution σ) (side share : String → Bool) :
    (g.restrict side share).Solution σ := by
  intro channel hchannel pin e pin' e' hwired hwired'
  exact hσ channel (mem_channels_restrict.1 hchannel).1 pin e pin' e'
    (wired_restrict_iff.1 hwired).1 (wired_restrict_iff.1 hwired').1

/-- Solutions for the two sides make one for the graph. -/
theorem solution_ite (h : g.Separates side share) (hσ : (g.restrict side share).Solution σ)
    (hσ' : (g.restrict (fun name ↦ !side name) fun channel ↦ !share channel).Solution σ') :
    g.Solution fun q ↦ if side q.scope then σ q else σ' q := by
  intro channel hchannel pin e pin' e' hwired hwired'
  -- both pins are on the side of the channel, so one of the two solutions is used for both
  have hpin := h channel hchannel pin e hwired
  have hpin' := h channel hchannel pin' e' hwired'
  rw [substitute_ite hwired _ hpin.symm, substitute_ite hwired' _ hpin'.symm]
  cases hshare : share channel with
  | true =>
    rw [hshare] at hpin hpin'
    exact hσ channel (mem_channels_restrict.2 ⟨hchannel, hshare⟩) pin e pin' e'
      (wired_restrict_iff.2 ⟨hwired, hpin.symm⟩) (wired_restrict_iff.2 ⟨hwired', hpin'.symm⟩)
  | false =>
    rw [hshare] at hpin hpin'
    refine hσ' channel (mem_channels_restrict.2 ⟨hchannel, ?_⟩) pin e pin' e'
      (wired_restrict_iff.2 ⟨hwired, ?_⟩) (wired_restrict_iff.2 ⟨hwired', ?_⟩)
    · rw [hshare]
      rfl
    · rw [← hpin]
      rfl
    · rw [← hpin']
      rfl

/-- Most general solutions for a graph and for one of its sides are instances of each other at the
parameters of this side, so with the default for the parameters that are left they give the same
type. -/
theorem groundWith_eq (h : g.Separates side share) (hμ : g.MostGeneralSolution μ)
    (hμ' : (g.restrict side share).MostGeneralSolution μ')
    (he : ∀ q ∈ e.params, side q.scope = true) (default : TypeExpr) :
    (e.substitute μ').groundWith default = (e.substitute μ).groundWith default := by
  -- the solution for the side, put together with the one for the graph on the other side, is one
  -- for the graph, so it factors through the most general one
  have hboth := h.solution_ite hμ'.solution
    (solution_restrict hμ.solution (fun name ↦ !side name) fun channel ↦ !share channel)
  refine TypeExpr.groundWith_eq_of_instances (f := μ)
    (g := fun q ↦ if side q.scope then μ' q else μ q) ?_ ?_ default
  · rw [TypeExpr.substitute_substitute]
    exact TypeExpr.substitute_congr fun q _ ↦
      hμ'.factors μ (solution_restrict hμ.solution side share) q
  · rw [TypeExpr.substitute_substitute]
    refine TypeExpr.substitute_congr fun q hq ↦ ?_
    rw [hμ.factors _ hboth, if_pos (he q hq)]

end Solutions

/-! ### What is published for a side -/

/-- The pins of a node on one side are connected to the same channels, whether the other side is
there or not. -/
theorem any_connectedChannel (h : g.Separates side share) (hn : g.nodes.get? name = some n)
    (hside : side name = true) {x : String} (hx : x ∈ n.pins.keys) :
    (n.connectedChannel x).any (· ∈ (g.restrict side share).channels) =
      (n.connectedChannel x).any (· ∈ g.channels) := by
  cases hconnected : n.connectedChannel x with
  | none => rfl
  | some channel =>
    obtain ⟨declared, hdeclared⟩ := OrderedMap.mem_iff_exists.1 (OrderedMap.mem_iff.2 hx)
    have hwired : g.Wired channel ⟨name, x⟩ (declared.type.inScope name) :=
      (wired_iff_of_get? hn).2 ⟨declared, hdeclared, hconnected, rfl⟩
    refine decide_eq_decide.2 (mem_channels_restrict.trans ⟨fun hmem ↦ hmem.1, fun hmem ↦ ?_⟩)
    exact ⟨hmem, (h channel hmem _ _ hwired).trans hside⟩

section Published

variable {p p' : Pass} (h : g.Separates side share) (hcurrent : g.CachesCurrent)
  (hp : Pass.Solved g p) (hp' : Pass.Solved (g.restrict side share) p')

include h hcurrent hp hp'

theorem finalType_eq (he : ∀ q ∈ e.params, side q.scope = true) :
    p'.finalType default e = p.finalType default e :=
  h.groundWith_eq (hcurrent.mostGeneralSolution hp)
    ((h.cachesCurrent_restrict hcurrent).mostGeneralSolution hp') he default

/-- The final type of a parameter of a node on a side is the same with that side alone. -/
theorem finalType_param (hside : side name = true) (i : String) :
    p'.finalType default (.param ⟨name, i⟩) = p.finalType default (.param ⟨name, i⟩) := by
  refine h.finalType_eq hcurrent hp hp' fun q hq ↦ ?_
  rw [List.mem_singleton.1 hq]
  exact hside

/-- The final type of a pin on a side is the same with that side alone. -/
theorem finalType_wired (hwired : g.Wired channel pin e) (hside : side pin.node = true) :
    p'.finalType default e = p.finalType default e := by
  refine h.finalType_eq hcurrent hp hp' fun q hq ↦ ?_
  rw [hwired.scope_eq hq]
  exact hside

theorem paramsWritable_iff (hside : side name = true) (n : Node) :
    p'.ParamsWritable default name n ↔ p.ParamsWritable default name n := by
  simp only [Pass.ParamsWritable, h.finalType_param hcurrent hp hp' hside]

/-- What is published for a channel is the same whether the other side is there or not. -/
theorem publishedChannel_eq (hconcrete : default.isConcrete) (hchannel : channel ∈ g.channels)
    (hshare : share channel = true) (c : Channel) :
    p'.publishedChannel default channel c = p.publishedChannel default channel c := by
  have hchannel' : channel ∈ (g.restrict side share).channels :=
    mem_channels_restrict.2 ⟨hchannel, hshare⟩
  have hcurrent' := h.cachesCurrent_restrict hcurrent
  have htype : (p'.publishedChannel default channel c).type =
      (p.publishedChannel default channel c).type := by
    -- a channel has the type of any of its pins, and the default if it has none
    by_cases hpins : ∃ pin e, g.Wired channel pin e
    · obtain ⟨pin, e, hwired⟩ := hpins
      have hside : side pin.node = true := (h channel hchannel pin e hwired).symm.trans hshare
      rw [type_publishedChannel_of_wired hcurrent hp hchannel hwired,
        type_publishedChannel_of_wired hcurrent' hp' hchannel'
          (wired_restrict_iff.2 ⟨hwired, hside⟩),
        h.finalType_wired hcurrent hp hp' hwired hside]
    · have hnone : ∀ pin e, ¬g.Wired channel pin e := fun pin e hwired ↦ hpins ⟨pin, e, hwired⟩
      rw [type_publishedChannel_of_not_wired hcurrent hp hconcrete hchannel hnone,
        type_publishedChannel_of_not_wired hcurrent' hp' hconcrete hchannel'
          fun pin e hwired ↦ hnone pin e (wired_restrict_iff.1 hwired).1]
  exact congrArg (fun t ↦ { c with type := t }) htype

/-- The types published for the pins of a node are the same whether the other side is there or
not. -/
theorem pinTypes_publishedNode_eq (hn : g.nodes.get? name = some n) (hside : side name = true) :
    (p'.publishedNode default name n).pinTypes = (p.publishedNode default name n).pinTypes := by
  have hn' : (g.restrict side share).nodes.get? name = some n :=
    get?_nodes_restrict_iff.2 ⟨hn, hside⟩
  apply OrderedMap.ext_get?
  · rw [keys_pinTypes_publishedNode hp hn, keys_pinTypes_publishedNode hp' hn']
    exact List.filter_congr fun pin hpin ↦ h.any_connectedChannel hn hside hpin
  · intro pin
    apply Option.ext
    intro t
    rw [get?_pinTypes_publishedNode_iff hp hn, get?_pinTypes_publishedNode_iff hp' hn']
    constructor
    · rintro ⟨channel, hchannel, e, hwired, rfl⟩
      have hwired := (wired_restrict_iff.1 hwired).1
      exact ⟨channel, (mem_channels_restrict.1 hchannel).1, e, hwired,
        h.finalType_wired hcurrent hp hp' hwired hside⟩
    · rintro ⟨channel, hchannel, e, hwired, rfl⟩
      have hshare : share channel = true := (h channel hchannel _ e hwired).trans hside
      exact ⟨channel, mem_channels_restrict.2 ⟨hchannel, hshare⟩, e,
        wired_restrict_iff.2 ⟨hwired, hside⟩,
        (h.finalType_wired hcurrent hp hp' hwired hside).symm⟩

/-- The texts published for the parameters of a node are the same whether the other side is there or
not. -/
theorem typeParams_publishedNode_eq (hside : side name = true)
    (hwritable : p.ParamsWritable default name n) :
    (p'.publishedNode default name n).typeParams = (p.publishedNode default name n).typeParams := by
  have hwritable' := (h.paramsWritable_iff hcurrent hp hp' hside n).2 hwritable
  have hkeys := Pass.keys_typeParams_publishedNode hp.acyclic hwritable
  have hkeys' := Pass.keys_typeParams_publishedNode hp'.acyclic hwritable'
  refine OrderedMap.ext_keys (hkeys'.trans hkeys.symm) fun i hi ↦ ?_
  rw [hkeys'] at hi
  exact Pass.get?_typeParams_publishedNode_congr hp.acyclic hp'.acyclic hwritable hwritable' hi hi
    (h.finalType_param hcurrent hp hp' hside i)

/-- What is published for a side is that side of what is published for the graph. -/
theorem published_restrict (hconcrete : default.isConcrete)
    (hwritable : ∀ name n, g.nodes.get? name = some n → p.ParamsWritable default name n) :
    p'.published default (g.restrict side share) =
      (p.published default g).restrict side share := by
  have hnodes : (g.restrict side share).nodes.map (p'.publishedNode default) =
      (g.nodes.map (p.publishedNode default)).filter fun name _ ↦ side name := by
    rw [← OrderedMap.map_filter_keys]
    refine OrderedMap.map_congr fun name n hn ↦ ?_
    obtain ⟨hn, hside⟩ := get?_nodes_restrict_iff.1 hn
    have hpins : (p'.publishedNode default name n).pinTypes =
        (p.publishedNode default name n).pinTypes :=
      h.pinTypes_publishedNode_eq hcurrent hp hp' hn hside
    have htexts := h.typeParams_publishedNode_eq hcurrent hp hp' hside (hwritable name n hn)
    show ({ n with
      pinTypes := (p'.publishedNode default name n).pinTypes
      typeParams := (p'.publishedNode default name n).typeParams } : Node) = _
    rw [hpins, htexts]
    rfl
  have hchannels : (g.restrict side share).channels.map (p'.publishedChannel default) =
      (g.channels.map (p.publishedChannel default)).filter fun channel _ ↦ share channel := by
    rw [← OrderedMap.map_filter_keys]
    refine OrderedMap.map_congr fun channel c hc ↦ ?_
    obtain ⟨hc, hshare⟩ := get?_channels_restrict_iff.1 hc
    exact h.publishedChannel_eq hcurrent hp hp' hconcrete
      (OrderedMap.mem_iff_exists.2 ⟨c, hc⟩) hshare c
  unfold Pass.published
  rw [hnodes, hchannels]
  rfl

end Published

/-! ### Inferring a side -/

/-- Where an inference succeeds for a graph it does so for a side alone, with the types of that
side. -/
theorem infer_restrict (h : g.Separates side share) (hcurrent : g.CachesCurrent)
    (hconcrete : default.isConcrete) (hinfer : g.infer default = .ok r) :
    (g.restrict side share).infer default = .ok (r.restrict side share) := by
  rcases hcurrent.infer_cases default with ⟨hstop, -⟩ | ⟨p, hp, hrun⟩
  · exact absurd ⟨r, hinfer⟩ hstop.not_ok
  obtain ⟨hwritable, rfl⟩ := (Pass.commit_eq_ok_iff hp.toSound).1 (hrun.symm.trans hinfer)
  rcases (h.cachesCurrent_restrict hcurrent).infer_cases default with
    ⟨-, hnone⟩ | ⟨p', hp', hrun'⟩
  · have hμ := mostGeneralSolution_of_solved hcurrent hp
    exact absurd ⟨_, solution_restrict hμ.solution side share⟩ hnone
  · rw [clearTypes_restrict] at hp' hrun'
    rw [hrun']
    refine (Pass.commit_eq_ok_iff hp'.toSound).2 ⟨fun name n hn ↦ ?_, ?_⟩
    · obtain ⟨hn, hside⟩ := get?_nodes_restrict_iff.1 hn
      exact (h.clearTypes.paramsWritable_iff hcurrent.clearTypes hp hp' hside n).2
        (hwritable name n hn)
    · exact h.clearTypes.published_restrict hcurrent.clearTypes hp hp' hconcrete hwritable

/-- Where a side is inferred, the parameters of its nodes have texts also in the last state of the
whole inference. -/
theorem paramsWritable_of_infer_restrict {p : Pass} (h : g.Separates side share)
    (hcurrent : g.CachesCurrent) (hp : Pass.Solved g.clearTypes p)
    (hinfer : (g.restrict side share).infer default = .ok r)
    (hn : g.clearTypes.nodes.get? name = some n) (hside : side name = true) :
    p.ParamsWritable default name n := by
  rcases (h.cachesCurrent_restrict hcurrent).infer_cases default with
    ⟨hstop, -⟩ | ⟨p', hp', hrun⟩
  · exact absurd ⟨r, hinfer⟩ hstop.not_ok
  · rw [clearTypes_restrict] at hp' hrun
    obtain ⟨hwritable, -⟩ := (Pass.commit_eq_ok_iff hp'.toSound).1 (hrun.symm.trans hinfer)
    exact (h.clearTypes.paramsWritable_iff hcurrent.clearTypes hp hp' hside n).1
      (hwritable name n (get?_nodes_restrict_iff.2 ⟨hn, hside⟩))

/-- Where both sides are inferred the graph is. -/
theorem exists_infer_eq_ok {r' : Graph} (h : g.Separates side share) (hcurrent : g.CachesCurrent)
    (hinfer : (g.restrict side share).infer default = .ok r)
    (hinfer' : (g.restrict (fun name ↦ !side name) fun channel ↦ !share channel).infer default =
      .ok r') : ∃ r, g.infer default = .ok r := by
  rcases hcurrent.infer_cases default with ⟨-, hnone⟩ | ⟨p, hp, hrun⟩
  · -- solutions for the two sides would make one for the graph
    rcases (h.cachesCurrent_restrict hcurrent).infer_cases default with
      ⟨hstop, -⟩ | ⟨p, hp, -⟩
    · exact absurd ⟨r, hinfer⟩ hstop.not_ok
    rcases (h.not.cachesCurrent_restrict hcurrent).infer_cases default with
      ⟨hstop, -⟩ | ⟨p', hp', -⟩
    · exact absurd ⟨r', hinfer'⟩ hstop.not_ok
    have hμ := mostGeneralSolution_of_solved (h.cachesCurrent_restrict hcurrent) hp
    have hμ' := mostGeneralSolution_of_solved (h.not.cachesCurrent_restrict hcurrent) hp'
    exact absurd ⟨_, h.solution_ite hμ.solution hμ'.solution⟩ hnone
  · refine ⟨_, hrun.trans ((Pass.commit_eq_ok_iff hp.toSound).2 ⟨fun name n hn ↦ ?_, rfl⟩)⟩
    cases hside : side name with
    | true => exact h.paramsWritable_of_infer_restrict hcurrent hp hinfer hn hside
    | false =>
      refine h.not.paramsWritable_of_infer_restrict hcurrent hp hinfer' hn ?_
      rw [hside]
      rfl

end Separates

/-! ### Connections that stop an inference -/

/-- Nothing is found that cannot be looked up exactly if no declared pin has such a value. -/
theorem firstContainer?_eq_none_iff {read : Node → String → Json} :
    g.firstContainer? read = none ↔ ∀ name n, g.nodes.get? name = some n →
      ∀ pin ∈ n.pins.keys, (read n pin).isContainer = false := by
  rw [firstContainer?, List.findSome?_eq_none_iff]
  simp only [Option.map_eq_none_iff, List.find?_eq_none, List.forall_mem_map, Bool.not_eq_true]
  constructor
  · exact fun h name n hn ↦ h (name, n) (OrderedMap.get?_eq_some_iff.1 hn)
  · exact fun h entry hentry ↦ h entry.1 entry.2 (OrderedMap.get?_eq_some_iff.2 hentry)

/-- An inference that looks up connections succeeds if these can be looked up and it succeeds
without looking. -/
theorem tryInfer_eq_ok_iff : g.tryInfer default = .ok r ↔
    g.firstContainer? Node.connection = none ∧ g.infer default = .ok r := by
  unfold tryInfer
  split
  · rename_i hnone
    rw [hnone]
    exact (and_iff_right rfl).symm
  · rename_i hsome
    rw [hsome]
    refine iff_of_false (fun h ↦ ?_) fun h ↦ ?_
    · cases h
    · cases h.1

theorem firstContainer?_restrict {read : Node → String → Json}
    (h : g.firstContainer? read = none) (side share : String → Bool) :
    (g.restrict side share).firstContainer? read = none :=
  firstContainer?_eq_none_iff.2 fun name n hn ↦
    firstContainer?_eq_none_iff.1 h name n (get?_nodes_restrict_iff.1 hn).1

namespace Separates

/-- An inference of the graph that succeeds succeeds on a side, with the same results there. -/
theorem tryInfer_restrict (h : g.Separates side share) (hcurrent : g.CachesCurrent)
    (hconcrete : default.isConcrete) (hinfer : g.tryInfer default = .ok r) :
    (g.restrict side share).tryInfer default = .ok (r.restrict side share) := by
  obtain ⟨hnone, hinfer⟩ := tryInfer_eq_ok_iff.1 hinfer
  exact tryInfer_eq_ok_iff.2 ⟨firstContainer?_restrict hnone side share,
    h.infer_restrict hcurrent hconcrete hinfer⟩

/-- An inference of the graph succeeds exactly if those of its two sides do. -/
theorem tryInfer_ok_iff (h : g.Separates side share) (hcurrent : g.CachesCurrent)
    (hconcrete : default.isConcrete) : (∃ r, g.tryInfer default = .ok r) ↔
      (∃ r, (g.restrict side share).tryInfer default = .ok r) ∧
        ∃ r, (g.restrict (fun name ↦ !side name) fun channel ↦ !share channel).tryInfer default =
          .ok r := by
  constructor
  · rintro ⟨r, hinfer⟩
    exact ⟨⟨_, h.tryInfer_restrict hcurrent hconcrete hinfer⟩,
      _, h.not.tryInfer_restrict hcurrent hconcrete hinfer⟩
  · rintro ⟨⟨r, hinfer⟩, r', hinfer'⟩
    obtain ⟨hnone, hinfer⟩ := tryInfer_eq_ok_iff.1 hinfer
    obtain ⟨hnone', hinfer'⟩ := tryInfer_eq_ok_iff.1 hinfer'
    obtain ⟨r, hboth⟩ := h.exists_infer_eq_ok hcurrent hinfer hinfer'
    refine ⟨r, tryInfer_eq_ok_iff.2 ⟨firstContainer?_eq_none_iff.2 fun name n hn ↦ ?_, hboth⟩⟩
    cases hside : side name with
    | true =>
      exact firstContainer?_eq_none_iff.1 hnone name n (get?_nodes_restrict_iff.2 ⟨hn, hside⟩)
    | false =>
      refine firstContainer?_eq_none_iff.1 hnone' name n (get?_nodes_restrict_iff.2 ⟨hn, ?_⟩)
      rw [hside]
      rfl

end Separates

end Graph

end ChannelGraph
