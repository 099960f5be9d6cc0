import ChannelGraph.Proofs.Inference.Visits

/-!
# What an inference publishes

The types of pins, of channels and of parameters are all instantiated by the same values, so the
result is one expression in the state and the graph (`commit_eq_ok_iff`), in which every type is a
final type (`Pass.finalType`). Final types are concrete, and types that agree have the same one.

Writing the results can fail only at the text of a parameter, and only for the reason that the
default has no text (`exists_malformed_of_commit`, `commit_eq`), because that is what is put in for
the parameters that are left.
-/

namespace ChannelGraph

/-- The identifiers in the declared types of all pins of a node, each once, in order of first
appearance. -/
def Node.declaredIdents (n : Node) : List String :=
  (n.pins.values.flatMap fun pin ↦ pin.type.tree.params.map TypeParam.ident).eraseDups

/-- The declared identifiers are those of the parameters in the types of the pins. -/
theorem Node.mem_declaredIdents_iff {n : Node} {i : String} :
    i ∈ n.declaredIdents ↔ ∃ pin declared, n.pins.get? pin = some declared ∧
      ∃ q ∈ declared.type.tree.params, q.ident = i := by
  rw [declaredIdents, List.mem_eraseDups, List.mem_flatMap]
  constructor
  · rintro ⟨declared, hdeclared, hi⟩
    obtain ⟨⟨pin, _⟩, hentry, rfl⟩ := List.mem_map.1 hdeclared
    exact ⟨pin, _, OrderedMap.get?_eq_some_iff.2 hentry, List.mem_map.1 hi⟩
  · rintro ⟨pin, declared, hdeclared, hi⟩
    exact ⟨declared, OrderedMap.mem_values_of_get? hdeclared, List.mem_map.2 hi⟩

namespace Pass

variable {g : Graph} {p : Pass} {default e t : TypeExpr} {name : String} {n : Node}

/-! ### Final types -/

/-- A type instantiated, with the default for the parameters that are left. -/
def finalType (p : Pass) (default e : TypeExpr) : TypeExpr :=
  (e.substitute p.bindings.value).groundWith default

/-- With acyclic bindings a type is settled without fault, to its final type. -/
theorem settle_eq (h : p.bindings.Acyclic) (default e : TypeExpr) :
    p.settle default e = .ok (p.finalType default e) := by
  rw [settle, Bindings.apply_eq h]
  rfl

/-- A final type is made from the final types of the parameters. -/
theorem finalType_eq_substitute (p : Pass) (default e : TypeExpr) :
    p.finalType default e = e.substitute fun q ↦ p.finalType default (.param q) := by
  rw [finalType, TypeExpr.groundWith, TypeExpr.substitute_substitute]
  rfl

/-- A type without parameters is final. -/
theorem finalType_of_isConcrete (p : Pass) (default : TypeExpr) (h : e.isConcrete) :
    p.finalType default e = e := by
  rw [finalType_eq_substitute, TypeExpr.substitute_of_isConcrete h]

/-- No parameters are left where the default has none. -/
theorem isConcrete_finalType (p : Pass) (hdefault : default.isConcrete) (e : TypeExpr) :
    (p.finalType default e).isConcrete :=
  TypeExpr.isConcrete_substitute fun _ _ ↦ hdefault

/-- Types that the bindings say are equal have the same final type. -/
theorem finalType_congr (h : p.bindings.Acyclic) (default : TypeExpr)
    (hentails : p.bindings.Entails t e) : p.finalType default t = p.finalType default e := by
  rw [finalType, (Bindings.entails_iff h).1 hentails, finalType]

/-- A type with a text has a final type with one, if the default has one. -/
theorem isWritable_finalType (h : Sound g p) (hdefault : default.IsWritable) (he : e.IsWritable) :
    (p.finalType default e).IsWritable :=
  (he.substitute fun q _ ↦ h.writable.value h.acyclic q).substitute fun _ _ ↦ hdefault

/-- Where a final type has no text the default has none, for the same reason. -/
theorem written_default_of_finalType {m : Malformed} (h : Sound g p) (he : e.IsWritable)
    (hm : (p.finalType default e).written = .error m) : default.written = .error m := by
  have hvalue : (e.substitute p.bindings.value).IsWritable :=
    he.substitute fun q _ ↦ h.writable.value h.acyclic q
  obtain ⟨_, -, hm⟩ := hvalue.exists_of_written_substitute hm
  exact hm

/-- All types of a node are settled without fault. -/
theorem settleAll_eq (h : p.bindings.Acyclic) (default : TypeExpr)
    (types : OrderedMap String TypeExpr) :
    p.settleAll default types = .ok (types.map fun _ e ↦ p.finalType default e) := by
  have hsettle : ∀ entry ∈ types.entries,
      p.settle default entry.2 = .ok (p.finalType default entry.2) :=
    fun entry _ ↦ settle_eq h default entry.2
  obtain ⟨m, hrun, hentries⟩ := OrderedMap.foldlM_insert_eq_ok hsettle types.nodup
  rw [settleAll, hrun]
  exact congrArg Except.ok (OrderedMap.ext hentries)

/-! ### The texts of type parameters -/

/-- The parameters of a node are its declared identifiers in its own scope. -/
theorem declaredParams_eq (name : String) (n : Node) :
    declaredParams name n = n.declaredIdents.map (TypeParam.mk name) := by
  have hinjective : (TypeParam.mk name).Injective := fun i j heq ↦ by injection heq
  rw [declaredParams, Node.declaredIdents, ← eraseDups_map hinjective, List.map_flatMap]
  simp only [DeclaredType.inScope, TypeExpr.params_inScope]

/-- The final types of all parameters of a node have texts. -/
def ParamsWritable (p : Pass) (default : TypeExpr) (name : String) (n : Node) : Prop :=
  ∀ i ∈ n.declaredIdents, (p.finalType default (.param ⟨name, i⟩)).IsWritable

/-- With a default that has a text, all parameters of a node get texts. -/
theorem paramsWritable (h : Sound g p) (hdefault : default.IsWritable) (name : String) (n : Node) :
    p.ParamsWritable default name n :=
  fun _ _ ↦ isWritable_finalType h hdefault (.param _)

/-- Every parameter of a node gets the text of its final type. -/
theorem exists_paramTexts (h : p.bindings.Acyclic) (hwritable : p.ParamsWritable default name n) :
    ∃ texts, p.paramTexts default name n = .ok texts ∧ texts.keys = n.declaredIdents ∧
      ∀ i text, texts.get? i = some text →
        (p.finalType default (.param ⟨name, i⟩)).written = .ok text := by
  have hwritten : ∀ i ∈ n.declaredIdents, ∃ text,
      (p.finalType default (.param ⟨name, i⟩)).written = .ok text :=
    fun i hi ↦ (hwritable i hi).exists_written
  choose! text htext using hwritten
  have hcompute : ∀ q ∈ declaredParams name n, p.paramText default q = .ok (text q.ident) := by
    intro q hq
    rw [declaredParams_eq] at hq
    obtain ⟨i, hi, rfl⟩ := List.mem_map.1 hq
    rw [paramText, settle_eq h]
    dsimp only
    rw [htext i hi]
    rfl
  have hidents : (declaredParams name n).map TypeParam.ident = n.declaredIdents := by
    rw [declaredParams_eq, List.map_map]
    exact List.map_id _
  -- no identifier comes twice, so no text is overwritten
  have hkeys : ((declaredParams name n).map TypeParam.ident).Nodup := by
    rw [hidents]
    exact nodup_eraseDups _
  obtain ⟨texts, hrun, hentries⟩ := OrderedMap.foldlM_insert_eq_ok hcompute hkeys
  refine ⟨texts, hrun, ?_, fun i t ht ↦ ?_⟩
  · rw [OrderedMap.keys, hentries, List.map_map]
    exact hidents
  · have hentry := OrderedMap.get?_eq_some_iff.1 ht
    rw [hentries, declaredParams_eq, List.map_map] at hentry
    obtain ⟨i', hi', heq⟩ := List.mem_map.1 hentry
    cases heq
    exact htext i' hi'

/-- Where all parameters of a node got texts, their final types have texts. -/
theorem paramsWritable_of_paramTexts (h : p.bindings.Acyclic) {texts : OrderedMap String String}
    (hrun : p.paramTexts default name n = .ok texts) : p.ParamsWritable default name n := by
  intro i hi
  have hparam : (⟨name, i⟩ : TypeParam) ∈ declaredParams name n := by
    rw [declaredParams_eq]
    exact List.mem_map.2 ⟨i, hi, rfl⟩
  obtain ⟨m, m', hstep⟩ := exists_of_foldlM_eq_ok hrun hparam
  cases htext : p.paramText default ⟨name, i⟩ with
  | error f =>
    rw [htext] at hstep
    cases hstep
  | ok text =>
    rw [paramText, settle_eq h] at htext
    cases hwritten : (p.finalType default (.param ⟨name, i⟩)).written with
    | error m =>
      dsimp only at htext
      rw [hwritten] at htext
      cases htext
    | ok t => exact TypeExpr.isWritable_iff_exists_written.2 ⟨t, hwritten⟩

/-- Only a default without text leaves a parameter without one, and it is the default that is
reported. -/
theorem exists_malformed_of_paramTexts (h : Sound g p) {f : UnifyFault}
    (hrun : p.paramTexts default name n = .error f) :
    ∃ m, default.written = .error m ∧ f = .malformed m := by
  obtain ⟨texts, q, hstep⟩ := exists_of_foldlM_eq_error hrun
  rw [paramText, settle_eq h.acyclic] at hstep
  dsimp only at hstep
  cases hwritten : (p.finalType default (.param q)).written with
  | error m =>
    rw [hwritten] at hstep
    cases hstep
    exact ⟨m, written_default_of_finalType h (.param q) hwritten, rfl⟩
  | ok text =>
    rw [hwritten] at hstep
    cases hstep

/-! ### The published graph -/

/-- A node with the final types of its pins and parameters. -/
def publishedNode (p : Pass) (default : TypeExpr) (name : String) (n : Node) : Node :=
  { n with
    pinTypes := ((p.pinTypes.get? name).getD ∅).map fun _ e ↦ p.finalType default e
    typeParams := (p.paramTexts default name n).toOption.getD ∅ }

/-- A channel with its final type: the default if it has no type. -/
def publishedChannel (p : Pass) (default : TypeExpr) (channel : String) (c : Channel) : Channel :=
  { c with type := some (p.finalType default ((p.channelTypes.get? channel).join.getD default)) }

/-- A graph with the final types of all nodes and channels. -/
def published (p : Pass) (default : TypeExpr) (g : Graph) : Graph :=
  { g with
    nodes := g.nodes.map (p.publishedNode default)
    channels := g.channels.map (p.publishedChannel default) }

/-- A declared parameter has the text of its final type on the published node. -/
theorem exists_text (h : p.bindings.Acyclic) (hwritable : p.ParamsWritable default name n)
    {i : String} (hi : i ∈ n.declaredIdents) :
    ∃ text, (p.publishedNode default name n).typeParams.get? i = some text ∧
      (p.finalType default (.param ⟨name, i⟩)).written = .ok text := by
  obtain ⟨texts, htexts, hkeys, hwritten⟩ := exists_paramTexts h hwritable
  obtain ⟨text, htext⟩ : ∃ text, texts.get? i = some text := by
    rw [← OrderedMap.mem_iff_exists, OrderedMap.mem_iff, hkeys]
    exact hi
  refine ⟨text, ?_, hwritten i text htext⟩
  rw [publishedNode, htexts]
  exact htext

/-- Exactly the declared parameters have texts on a published node, in their order. -/
theorem keys_typeParams_publishedNode (h : p.bindings.Acyclic)
    (hwritable : p.ParamsWritable default name n) :
    (p.publishedNode default name n).typeParams.keys = n.declaredIdents := by
  obtain ⟨texts, htexts, hkeys, -⟩ := exists_paramTexts h hwritable
  rw [publishedNode, htexts]
  exact hkeys

/-- A parameter has the same text in all states in which it has the same final type, whatever other
parameters are declared. -/
theorem get?_typeParams_publishedNode_congr {p' : Pass} {n' : Node} {i : String}
    (h : p.bindings.Acyclic) (h' : p'.bindings.Acyclic)
    (hwritable : p.ParamsWritable default name n) (hwritable' : p'.ParamsWritable default name n')
    (hi : i ∈ n.declaredIdents) (hi' : i ∈ n'.declaredIdents)
    (hfinal : p'.finalType default (.param ⟨name, i⟩) = p.finalType default (.param ⟨name, i⟩)) :
    (p'.publishedNode default name n').typeParams.get? i =
      (p.publishedNode default name n).typeParams.get? i := by
  obtain ⟨text, htext, hwritten⟩ := exists_text h hwritable hi
  obtain ⟨text', htext', hwritten'⟩ := exists_text h' hwritable' hi'
  rw [hfinal, hwritten] at hwritten'
  rw [htext, htext', Except.ok.inj hwritten']

/-- Publishing changes every node by itself. -/
theorem get?_nodes_published (p : Pass) (default : TypeExpr) (g : Graph) (name : String) :
    (p.published default g).nodes.get? name =
      (g.nodes.get? name).map (p.publishedNode default name) :=
  OrderedMap.get?_map _ _ _

/-- Publishing changes every channel by itself. -/
theorem get?_channels_published (p : Pass) (default : TypeExpr) (g : Graph) (channel : String) :
    (p.published default g).channels.get? channel =
      (g.channels.get? channel).map (p.publishedChannel default channel) :=
  OrderedMap.get?_map _ _ _

/-- Publishing changes nothing but the types. -/
theorem clearTypes_published (p : Pass) (default : TypeExpr) (g : Graph) :
    (p.published default g).clearTypes = g.clearTypes := by
  show ({ g with
    nodes := (g.nodes.map _).map _, channels := (g.channels.map _).map _ } : Graph) = _
  rw [OrderedMap.map_map, OrderedMap.map_map]
  rfl

/-- Changing channels one by one changes nothing but channels. -/
private theorem foldl_channels {β : Type} (f : String × β → Channel → Channel)
    (es : List (String × β)) (g : Graph) :
    es.foldl (fun g e ↦ { g with channels := g.channels.modify e.1 (f e) }) g =
      { g with channels := es.foldl (fun m e ↦ m.modify e.1 (f e)) g.channels } := by
  induction es generalizing g with
  | nil => rfl
  | cons e es ih => rw [List.foldl_cons, ih, List.foldl_cons]

/-- Changing nodes one by one changes nothing but nodes. -/
private theorem foldl_nodes {β : Type} (f : String × β → Node → Node)
    (es : List (String × β)) (g : Graph) :
    es.foldl (fun g e ↦ { g with nodes := g.nodes.modify e.1 (f e) }) g =
      { g with nodes := es.foldl (fun m e ↦ m.modify e.1 (f e)) g.nodes } := by
  induction es generalizing g with
  | nil => rfl
  | cons e es ih => rw [List.foldl_cons, ih, List.foldl_cons]

/-- The types of the channels are written first, and none of them stops the writing. -/
theorem commitChannels_eq (h : Sound g p) (default : TypeExpr) :
    p.channelTypes.entries.foldlM (commitChannel p default) g =
      .ok { g with channels := g.channels.map (p.publishedChannel default) } := by
  have hstep : commitChannel p default = fun g entry ↦ pure { g with
      channels := g.channels.modify entry.1 fun c ↦
        { c with type := some (p.finalType default (entry.2.getD default)) } } := by
    funext g entry
    rw [commitChannel, settle_eq h.acyclic]
    rfl
  rw [hstep, List.foldlM_pure, foldl_channels fun (entry : String × Option TypeExpr) c ↦
    { c with type := some (p.finalType default (entry.2.getD default)) },
    OrderedMap.foldl_modify_entries h.channelKeys]
  refine congrArg (fun channels ↦ Except.ok { g with channels := channels }) ?_
  refine OrderedMap.map_congr fun channel c hc ↦ ?_
  have hmem : channel ∈ p.channelTypes := by
    rw [OrderedMap.mem_iff, h.channelKeys]
    exact OrderedMap.mem_iff.1 (OrderedMap.mem_iff_exists.2 ⟨c, hc⟩)
  obtain ⟨t, ht⟩ := OrderedMap.mem_iff_exists.1 hmem
  rw [publishedChannel, ht]
  rfl

/-- A node is written as soon as its parameters have texts. -/
theorem commitNode_eq (h : Sound g p) {entry : String × Node}
    (hwritable : p.ParamsWritable default entry.1 entry.2) (g' : Graph) :
    commitNode p default g' entry = .ok { g' with
      nodes := g'.nodes.modify entry.1 fun n ↦ { n with
        pinTypes := (p.publishedNode default entry.1 entry.2).pinTypes
        typeParams := (p.publishedNode default entry.1 entry.2).typeParams } } := by
  obtain ⟨texts, htexts, -⟩ := exists_paramTexts h.acyclic hwritable
  rw [commitNode, settleAll_eq h.acyclic]
  dsimp only
  rw [htexts, publishedNode, htexts]
  dsimp only
  rw [OrderedMap.modify_modify]
  rfl

/-- A node that was written has parameters with texts. -/
theorem paramsWritable_of_commitNode (h : Sound g p) {entry : String × Node} {g' g'' : Graph}
    (hrun : commitNode p default g' entry = .ok g'') :
    p.ParamsWritable default entry.1 entry.2 := by
  rw [commitNode, settleAll_eq h.acyclic] at hrun
  dsimp only at hrun
  cases htexts : p.paramTexts default entry.1 entry.2 with
  | error f =>
    rw [htexts] at hrun
    cases hrun
  | ok texts => exact paramsWritable_of_paramTexts h.acyclic htexts

/-- Where all texts exist the types of all nodes are written. -/
theorem commitNodes_eq (h : Sound g p)
    (hwritable : ∀ name n, g.nodes.get? name = some n → p.ParamsWritable default name n) :
    g.nodes.entries.foldlM (commitNode p default)
        { g with channels := g.channels.map (p.publishedChannel default) } =
      .ok (p.published default g) := by
  have hstep : ∀ entry ∈ g.nodes.entries, ∀ g', commitNode p default g' entry = pure { g' with
      nodes := g'.nodes.modify entry.1 fun n ↦ { n with
        pinTypes := (p.publishedNode default entry.1 entry.2).pinTypes
        typeParams := (p.publishedNode default entry.1 entry.2).typeParams } } :=
    fun entry hentry ↦
      commitNode_eq h (hwritable entry.1 entry.2 (OrderedMap.get?_eq_some_iff.2 hentry))
  rw [foldlM_congr hstep, List.foldlM_pure, foldl_nodes fun (entry : String × Node) n ↦ { n with
    pinTypes := (p.publishedNode default entry.1 entry.2).pinTypes
    typeParams := (p.publishedNode default entry.1 entry.2).typeParams },
    OrderedMap.foldl_modify_entries rfl]
  refine congrArg (fun nodes ↦ Except.ok { g with
    nodes := nodes, channels := g.channels.map (p.publishedChannel default) }) ?_
  refine OrderedMap.map_congr fun name n hn ↦ ?_
  rw [hn]
  rfl

/-- The results are written exactly if the final types of all parameters have texts. -/
theorem commit_eq_ok_iff (h : Sound g p) {g' : Graph} : p.commit default g = .ok g' ↔
    (∀ name n, g.nodes.get? name = some n → p.ParamsWritable default name n) ∧
      p.published default g = g' := by
  rw [commit, commitChannels_eq h]
  dsimp only
  constructor
  · intro hrun
    have hwritable : ∀ name n, g.nodes.get? name = some n → p.ParamsWritable default name n := by
      intro name n hn
      obtain ⟨_, _, hstep⟩ := exists_of_foldlM_eq_ok hrun (OrderedMap.get?_eq_some_iff.1 hn)
      exact paramsWritable_of_commitNode h hstep
    exact ⟨hwritable, Except.ok.inj ((commitNodes_eq h hwritable).symm.trans hrun)⟩
  · rintro ⟨hwritable, rfl⟩
    exact commitNodes_eq h hwritable

/-- Writing the results fails only at the text of a parameter, and for the reason that the default
has no text. -/
theorem exists_malformed_of_commit (h : Sound g p) {i : Interrupted InferenceFault Graph}
    (hrun : p.commit default g = .error i) :
    ∃ m, default.written = .error m ∧ i.cause = .stopped (.malformed m) := by
  rw [commit, commitChannels_eq h] at hrun
  obtain ⟨g', entry, hstep⟩ := exists_of_foldlM_eq_error hrun
  rw [commitNode, settleAll_eq h.acyclic] at hstep
  dsimp only at hstep
  cases htexts : p.paramTexts default entry.1 entry.2 with
  | error f =>
    rw [htexts] at hstep
    cases hstep
    obtain ⟨m, hm, rfl⟩ := exists_malformed_of_paramTexts h htexts
    exact ⟨m, hm, rfl⟩
  | ok texts =>
    rw [htexts] at hstep
    cases hstep

/-- Writing is stopped by the bindings or by a type without text, and by nothing else. -/
theorem exists_stopped_of_commit (h : Sound g p) {i : Interrupted InferenceFault Graph}
    (hrun : p.commit default g = .error i) : ∃ f, i.cause = .stopped f := by
  obtain ⟨m, -, hcause⟩ := exists_malformed_of_commit h hrun
  exact ⟨_, hcause⟩

/-- Writing the results cannot fail if the default has a text. -/
theorem commit_eq (h : Sound g p) (hdefault : default.IsWritable) :
    p.commit default g = .ok (p.published default g) :=
  (commit_eq_ok_iff h).2 ⟨fun name n _ ↦ paramsWritable h hdefault name n, rfl⟩

end Pass

/-- An inference stops for a reason that does not depend on its visits, and leaves the graph without
inferred types, or it writes the final types of a state in which everything agrees. -/
theorem Graph.infer_eq_error_or_commit (g : Graph) (default : TypeExpr) :
    (∃ f, g.infer default = .error ⟨f, g.clearTypes⟩ ∧ Pass.Justified g.clearTypes f) ∨
      ∃ p, Pass.Solved g.clearTypes p ∧ g.infer default = p.commit default g.clearTypes := by
  have hreaches := Pass.run_start_reaches g.clearTypes
  unfold infer
  dsimp only
  generalize Pass.run g.clearTypes _ _ = out at hreaches
  cases hreaches with
  | stopped h => exact .inl ⟨_, rfl, h⟩
  | reached h => exact .inr ⟨_, h, rfl⟩

/-- With a default that has a text the final types are published. -/
theorem Graph.infer_cases (g : Graph) {default : TypeExpr} (hdefault : default.IsWritable) :
    (∃ f, g.infer default = .error ⟨f, g.clearTypes⟩ ∧ Pass.Justified g.clearTypes f) ∨
      ∃ p, Pass.Solved g.clearTypes p ∧
        g.infer default = .ok (p.published default g.clearTypes) := by
  rcases g.infer_eq_error_or_commit default with hstop | ⟨p, hp, hrun⟩
  · exact .inl hstop
  · exact .inr ⟨p, hp, hrun.trans (Pass.commit_eq hp.toSound hdefault)⟩

end ChannelGraph
