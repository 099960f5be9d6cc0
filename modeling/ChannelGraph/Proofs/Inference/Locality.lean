import ChannelGraph.Proofs.Inference.Separation

/-!
# Inference is local

What is inferred for a pin depends on what the pin is connected to and on nothing else. There are
two sides to this. A graph that falls apart is inferred piece by piece
(`ChannelGraph.Proofs.Inference.Separation`). And a pin that is connected to no channel takes no
part in the visits, so that its declared type may be any other one
(`Graph.Unwired.tryInfer_retype`): it is read only when the results are written, to know which
parameters there are.

There it can show, but only if the default has no text: then a parameter to which nothing is
connected has no text either, and it stops the writing to declare one
(`outcome_retype_textless`).
-/

namespace ChannelGraph

variable {name pin : String} {type : DeclaredType}

/-! ### Another declared type -/

/-- A block of code with another declared type for one of its pins. Other parts stay as they are:
their pins have fixed types. -/
def Part.retype (part : Part) (pin : String) (type : DeclaredType) : Part :=
  match part with
  | .code block =>
    .code { block with pins := block.pins.modify pin fun declared ↦ { declared with type := type } }
  | part => part

namespace Node

variable {n : Node} {x : String}

/-- A node with another declared type for one of the pins of its code. -/
def retype (n : Node) (pin : String) (type : DeclaredType) : Node :=
  { n with part := n.part.retype pin type }

/-- Another declared type changes no names of pins. -/
theorem keys_pins_retype (n : Node) (pin : String) (type : DeclaredType) :
    (n.retype pin type).pins.keys = n.pins.keys := by
  show (n.part.retype pin type).pins.keys = n.part.pins.keys
  cases n.part with
  | code block => exact OrderedMap.keys_modify _ _ _
  | transform | broadcast | gather | unslicer => rfl

/-- Another declared type of one pin does not change the other pins. -/
theorem get?_pins_retype_of_ne (n : Node) (type : DeclaredType) (h : x ≠ pin) :
    (n.retype pin type).pins.get? x = n.pins.get? x := by
  show (n.part.retype pin type).pins.get? x = n.part.pins.get? x
  cases n.part with
  | code block => exact (OrderedMap.get?_modify _ _ _ _).trans (if_neg h)
  | transform | broadcast | gather | unslicer => rfl

end Node

namespace Graph

variable {g r r' : Graph} {channel : String} {default : TypeExpr}

/-- A graph with another declared type for a pin of one of its nodes. -/
def retype (g : Graph) (name pin : String) (type : DeclaredType) : Graph :=
  { g with nodes := g.nodes.modify name fun n ↦ n.retype pin type }

/-- A pin that is connected to no channel of the graph. -/
def Unwired (g : Graph) (pin : PinRef) : Prop :=
  ∀ channel ∈ g.channels, ∀ e, ¬g.Wired channel pin e

/-- A pin is unwired if it is in none of the lists of pins at the channels, which can be decided. -/
theorem unwired_iff {pin : PinRef} :
    g.Unwired pin ↔ ∀ channel ∈ g.channels.keys, pin ∉ g.wiredTo channel := by
  constructor
  · intro h channel hchannel hpin
    obtain ⟨e, hwired⟩ := mem_wiredTo_iff.1 hpin
    exact h channel hchannel e hwired
  · intro h channel hchannel e hwired
    exact h channel hchannel (mem_wiredTo_iff.2 ⟨e, hwired⟩)

instance (g : Graph) (pin : PinRef) : Decidable (g.Unwired pin) :=
  decidable_of_iff _ unwired_iff.symm

/-- It makes no difference whether types are cleared before or after a pin is declared otherwise. -/
theorem clearTypes_retype (g : Graph) (name pin : String) (type : DeclaredType) :
    (g.retype name pin type).clearTypes = g.clearTypes.retype name pin type := by
  have hnodes : ((g.nodes.modify name fun n ↦ n.retype pin type).map fun _ n ↦ n.clearTypes) =
      (g.nodes.map fun _ n ↦ n.clearTypes).modify name fun n ↦ n.retype pin type := by
    rw [OrderedMap.modify, OrderedMap.modify, OrderedMap.map_map, OrderedMap.map_map]
    refine OrderedMap.map_congr fun name' n _ ↦ ?_
    split <;> rfl
  unfold clearTypes retype
  dsimp only
  rw [hnodes]

/-- What a pin is connected to does not depend on types. -/
theorem Unwired.clearTypes {pin : PinRef} (h : g.Unwired pin) : g.clearTypes.Unwired pin :=
  fun channel hchannel e hwired ↦
    h channel (mem_channels_clearTypes.1 hchannel) e (wired_clearTypes_iff.1 hwired)

end Graph

/-! ### The visits do not see it -/

namespace Pass

variable {g : Graph} {p : Pass}

/-- What a pin is connected to does not depend on declared types. -/
theorem connectedChannel_retype (g : Graph) (name pin : String) (type : DeclaredType)
    (node x : String) :
    (((g.retype name pin type).nodes.get? node).bind fun n ↦ n.connectedChannel x) =
      (g.nodes.get? node).bind fun n ↦ n.connectedChannel x := by
  show (((g.nodes.modify name fun n ↦ n.retype pin type).get? node).bind _) = _
  rw [OrderedMap.get?_modify]
  split
  · rw [Option.bind_map]
    rfl
  · rfl

/-- Refining a pin looks at connections and at types that are in the state. -/
theorem refinePin_retype (g : Graph) (name pin : String) (type : DeclaredType) :
    refinePin (g.retype name pin type) = refinePin g := by
  funext node p entry
  unfold refinePin
  rw [connectedChannel_retype]

/-- A visit does not look at declared types. -/
theorem visit_retype (g : Graph) (name pin : String) (type : DeclaredType) :
    visit (g.retype name pin type) = visit g := by
  have hpin : visitPin (g.retype name pin type) = visitPin g := by
    funext channel p pin
    unfold visitPin refineNode
    rw [refinePin_retype]
  funext p channel
  unfold visit
  rw [hpin]
  rfl

/-- All visits together do not look at declared types. -/
theorem run_retype (g : Graph) (name pin : String) (type : DeclaredType) :
    run (g.retype name pin type) = run g := by
  funext visits
  induction visits with
  | zero => rfl
  | succ visits ih =>
    funext p
    unfold run
    rw [visit_retype, ih]

/-- A pin that is connected to no channel has no type at the start, whatever is declared. -/
theorem declaredTypes_retype {n : Node} (hfree : g.Unwired ⟨name, pin⟩)
    (hn : g.nodes.get? name = some n) (type : DeclaredType) :
    declaredTypes g.channels name (n.retype pin type) = declaredTypes g.channels name n := by
  apply OrderedMap.ext_get?
  · rw [declaredTypes, declaredTypes, OrderedMap.keys_map, OrderedMap.keys_map,
      OrderedMap.keys_filter_keys, OrderedMap.keys_filter_keys, Node.keys_pins_retype]
    rfl
  · intro x
    rw [get?_declaredTypes, get?_declaredTypes]
    by_cases hx : x = pin
    · -- on neither side there is a type to start from, since the pin is not connected
      have hnone : ∀ m : OrderedMap String Pin, m.keys = n.pins.keys →
          (m.get? pin).filter (fun _ ↦ (n.connectedChannel pin).any (· ∈ g.channels)) = none := by
        intro m hkeys
        rw [Option.filter_eq_none_iff]
        intro declared hdeclared hany
        obtain ⟨channel, hconnected, hchannel⟩ := (Option.any_eq_true _ _).1 hany
        obtain ⟨declared', hdeclared'⟩ := OrderedMap.exists_get?_of_keys_eq hkeys hdeclared
        exact hfree channel (of_decide_eq_true hchannel) _
          ((Graph.wired_iff_of_get? hn).2 ⟨declared', hdeclared', hconnected, rfl⟩)
      rw [hx, hnone n.pins rfl]
      exact congrArg (Option.map _) (hnone _ (n.keys_pins_retype pin type))
    · rw [n.get?_pins_retype_of_ne type hx]
      rfl

/-- An unwired pin takes no part from the start. -/
theorem start_retype (hfree : g.Unwired ⟨name, pin⟩) (type : DeclaredType) :
    start (g.retype name pin type) = start g := by
  have htypes : (g.retype name pin type).nodes.map (declaredTypes g.channels) =
      g.nodes.map (declaredTypes g.channels) :=
    OrderedMap.map_modify_of_forall fun n hn ↦ declaredTypes_retype hfree hn type
  unfold start
  exact congrArg (fun types ↦ Pass.mk types _ _ _) htypes

end Pass

namespace Graph

variable {g r r' : Graph} {p : Pass} {default : TypeExpr}

/-! ### What is published -/

/-- Two graphs have the same inferred types, as far as both declare the same parameters. -/
structure SameResults (r r' : Graph) : Prop where
  /-- The channels are the same, with their types. -/
  channels : r'.channels = r.channels
  /-- The nodes have the same names, in the same order. -/
  nodes : r'.nodes.keys = r.nodes.keys
  /-- The pins of a node have the same types. -/
  pinTypes : ∀ name n n', r.nodes.get? name = some n → r'.nodes.get? name = some n' →
    n'.pinTypes = n.pinTypes
  /-- A parameter of a node that both declare has the same text. -/
  typeParams : ∀ name n n', r.nodes.get? name = some n → r'.nodes.get? name = some n' →
    ∀ i ∈ n.declaredIdents, i ∈ n'.declaredIdents → n'.typeParams.get? i = n.typeParams.get? i

/-- Without any types a graph has the same results as with the pin declared otherwise. -/
theorem sameResults_clearTypes_retype (g : Graph) (name pin : String) (type : DeclaredType) :
    g.clearTypes.SameResults (g.retype name pin type).clearTypes where
  channels := rfl
  nodes := by
    rw [clearTypes_retype]
    exact OrderedMap.keys_modify _ _ _
  pinTypes := by
    intro name' n n' hn hn'
    rw [((untyped_clearTypes g).nodes name' n hn).1, ((untyped_clearTypes _).nodes name' n' hn').1]
  typeParams := by
    intro name' n n' hn hn' i _ _
    rw [((untyped_clearTypes g).nodes name' n hn).2, ((untyped_clearTypes _).nodes name' n' hn').2]

/-- With the types published that the visits have found, a graph has the same results as with the
pin declared otherwise, as long as the types can be written for both. -/
theorem sameResults_retype (hp : p.bindings.Acyclic)
    (hwritable : ∀ name n, g.nodes.get? name = some n → p.ParamsWritable default name n)
    (hwritable' : ∀ name' n', (g.retype name pin type).nodes.get? name' = some n' →
      p.ParamsWritable default name' n') :
    (p.published default g).SameResults (p.published default (g.retype name pin type)) := by
  -- a node and the same one with another declared type are published from the same state
  have hnode : ∀ name' m m', (p.published default g).nodes.get? name' = some m →
      (p.published default (g.retype name pin type)).nodes.get? name' = some m' →
      ∃ n n', g.nodes.get? name' = some n ∧
        (g.retype name pin type).nodes.get? name' = some n' ∧
        m = p.publishedNode default name' n ∧ m' = p.publishedNode default name' n' := by
    intro name' m m' hm hm'
    rw [Pass.get?_nodes_published, Option.map_eq_some_iff] at hm hm'
    obtain ⟨n, hn, rfl⟩ := hm
    obtain ⟨n', hn', rfl⟩ := hm'
    exact ⟨n, n', hn, hn', rfl, rfl⟩
  refine ⟨rfl, ?_, fun name' m m' hm hm' ↦ ?_, fun name' m m' hm hm' i hi hi' ↦ ?_⟩
  · show ((g.nodes.modify name _).map _).keys = (g.nodes.map _).keys
    rw [OrderedMap.keys_map, OrderedMap.keys_map, OrderedMap.keys_modify]
  · obtain ⟨n, n', -, -, rfl, rfl⟩ := hnode name' m m' hm hm'
    rfl
  · obtain ⟨n, n', hn, hn', rfl, rfl⟩ := hnode name' m m' hm hm'
    exact Pass.get?_typeParams_publishedNode_congr hp hp (hwritable name' n hn)
      (hwritable' name' n' hn') hi hi' rfl

/-! ### How an inference ends -/

/-- Why the inference of a graph stops, if it does. -/
def outcome (g : Graph) (default : TypeExpr) : Option InferenceFault :=
  match g.tryInfer default with
  | .ok _ => none
  | .error i => some i.cause

/-- No fault is the outcome exactly of an inference that is not stopped. -/
theorem outcome_eq_none_iff : g.outcome default = none ↔ ∃ r, g.tryInfer default = .ok r := by
  unfold outcome
  cases hrun : g.tryInfer default with
  | ok r => exact iff_of_true rfl ⟨r, rfl⟩
  | error i =>
    refine iff_of_false (fun h ↦ nomatch h) ?_
    rintro ⟨r, ⟨⟩⟩

/-- A fault is the outcome exactly of an inference that is stopped by it. -/
theorem outcome_eq_some_iff {f : InferenceFault} :
    g.outcome default = some f ↔ ∃ i, g.tryInfer default = .error i ∧ i.cause = f := by
  unfold outcome
  cases hrun : g.tryInfer default with
  | ok r =>
    refine iff_of_false (fun h ↦ nomatch h) ?_
    rintro ⟨i, ⟨⟩, -⟩
  | error i =>
    constructor
    · intro h
      exact ⟨i, rfl, Option.some.inj h⟩
    · rintro ⟨_, ⟨⟩, rfl⟩
      rfl

/-- After the visits nothing is missing but the text of the default. -/
theorem outcome_ne_of_commit {g' : Graph} {m : Malformed} {f : InferenceFault}
    (hp : Pass.Solved g' p) (hrun : g.tryInfer default = p.commit default g')
    (hm : default.written = .error m) (hf : f ≠ .stopped (.malformed m)) :
    g.outcome default ≠ some f := by
  rw [Ne, outcome_eq_some_iff, hrun]
  rintro ⟨i, hi, rfl⟩
  obtain ⟨m', hm', hcause⟩ := Pass.exists_malformed_of_commit hp.toSound hi
  obtain rfl := Except.error.inj (hm.symm.trans hm')
  exact hf hcause

/-- Which connection cannot be looked up does not depend on types. -/
theorem firstContainer?_retype (g : Graph) (name pin : String) (type : DeclaredType) :
    (g.retype name pin type).firstContainer? Node.connection =
      g.firstContainer? Node.connection := by
  show List.findSome? _ (g.nodes.entries.map _) = _
  rw [List.findSome?_map]
  refine congrArg (fun read ↦ g.nodes.entries.findSome? read) (funext fun entry ↦ ?_)
  dsimp only [Function.comp_apply]
  split
  · rw [Node.keys_pins_retype]
    rfl
  · rfl

namespace Unwired

/-- Whatever is declared for a pin that is connected to no channel, the visits stop for the same
reason or come to the same end. -/
theorem infer_retype_cases (hfree : g.Unwired ⟨name, pin⟩) (type : DeclaredType)
    (default : TypeExpr) :
    (∃ f, g.infer default = .error ⟨f, g.clearTypes⟩ ∧
      (g.retype name pin type).infer default =
        .error ⟨f, (g.retype name pin type).clearTypes⟩) ∨
      ∃ p, Pass.Solved g.clearTypes p ∧ Pass.Solved (g.retype name pin type).clearTypes p ∧
        g.infer default = p.commit default g.clearTypes ∧
        (g.retype name pin type).infer default =
          p.commit default (g.retype name pin type).clearTypes := by
  have hstart := Pass.start_retype hfree.clearTypes type
  have hreaches := Pass.run_start_reaches g.clearTypes
  have hreaches' := Pass.run_start_reaches (g.clearTypes.retype name pin type)
  rw [hstart, Pass.run_retype] at hreaches'
  unfold infer
  rw [clearTypes_retype]
  dsimp only
  rw [hstart, Pass.run_retype]
  -- from here on both inferences have the same run, which is right for both graphs
  generalize Pass.run g.clearTypes _ _ = out at hreaches hreaches' ⊢
  cases hreaches with
  | stopped _ => exact .inl ⟨_, rfl, rfl⟩
  | reached h =>
    cases hreaches' with
    | reached h' => exact .inr ⟨_, h, h', rfl, rfl⟩

/-- Either both graphs are stopped by the same fault before anything is written, or the visits end
alike and only the writing is left to tell them apart. -/
theorem tryInfer_retype_cases (hfree : g.Unwired ⟨name, pin⟩) (type : DeclaredType)
    (default : TypeExpr) :
    (∃ f, g.tryInfer default = .error ⟨f, g.clearTypes⟩ ∧
      (g.retype name pin type).tryInfer default =
        .error ⟨f, (g.retype name pin type).clearTypes⟩) ∨
      ∃ p, Pass.Solved g.clearTypes p ∧ Pass.Solved (g.retype name pin type).clearTypes p ∧
        g.tryInfer default = p.commit default g.clearTypes ∧
        (g.retype name pin type).tryInfer default =
          p.commit default (g.retype name pin type).clearTypes := by
  unfold tryInfer
  rw [firstContainer?_retype]
  cases g.firstContainer? Node.connection with
  | some bad => exact .inl ⟨_, rfl, rfl⟩
  | none => exact hfree.infer_retype_cases type default

/-- Whatever is declared for a pin that is connected to no channel, an inference ends in the same
way and leaves the same types if the default has a text. If it has none, that is the only fault that
may be found for one of the types and not for the other one, and where both inferences succeed, they
publish the same. -/
theorem tryInfer_retype (hfree : g.Unwired ⟨name, pin⟩) (type : DeclaredType)
    (default : TypeExpr) :
    (default.IsWritable → (g.retype name pin type).outcome default = g.outcome default ∧
      (stateAfter (g.tryInfer default)).SameResults
        (stateAfter ((g.retype name pin type).tryInfer default))) ∧
      (∀ m, default.written = .error m → ∀ f, f ≠ .stopped (.malformed m) →
        ((g.retype name pin type).outcome default = some f ↔ g.outcome default = some f)) ∧
      ∀ r r', g.tryInfer default = .ok r → (g.retype name pin type).tryInfer default = .ok r' →
        r.SameResults r' := by
  rcases hfree.tryInfer_retype_cases type default with
    ⟨f, hrun, hrun'⟩ | ⟨p, hp, hp', hrun, hrun'⟩
  · unfold outcome
    rw [hrun, hrun']
    exact ⟨fun _ ↦ ⟨rfl, sameResults_clearTypes_retype g name pin type⟩, fun _ _ _ _ ↦ Iff.rfl,
      fun _ _ h ↦ nomatch h⟩
  · refine ⟨fun hdefault ↦ ?_, fun m hm f hf ↦ ?_, fun r r' hr hr' ↦ ?_⟩
    · -- with a text for the default all parameters get texts
      unfold outcome
      rw [hrun, hrun', Pass.commit_eq hp.toSound hdefault, Pass.commit_eq hp'.toSound hdefault,
        clearTypes_retype]
      exact ⟨rfl, sameResults_retype hp.acyclic
        (fun name' n _ ↦ Pass.paramsWritable hp.toSound hdefault name' n)
        fun name' n _ ↦ Pass.paramsWritable hp'.toSound hdefault name' n⟩
    · -- once the visits have ended, only a type without a text is left to be found
      exact iff_of_false (outcome_ne_of_commit hp' hrun' hm hf)
        (outcome_ne_of_commit hp hrun hm hf)
    · obtain ⟨hwritable, rfl⟩ := (Pass.commit_eq_ok_iff hp.toSound).1 (hrun.symm.trans hr)
      obtain ⟨hwritable', rfl⟩ := (Pass.commit_eq_ok_iff hp'.toSound).1 (hrun'.symm.trans hr')
      rw [clearTypes_retype] at hwritable' ⊢
      exact sameResults_retype hp.acyclic hwritable hwritable'

end Unwired

/-- Inference is local, with current caches and a concrete default. If no channel has pins on both
sides of a division of the nodes, the graph is inferred exactly if both sides are, each with its own
channels, and what is published for the graph is what is published for the sides. And the declared
type of a pin that is connected to no channel may be any other one: with a default that has a text
the inference ends in the same way and leaves the same types, up to the parameters that only one of
the types mentions; with one that has none, this is the only fault that may come or go, and what is
published is still the same where both inferences succeed. -/
theorem CachesCurrent.tryInfer_local (hcurrent : g.CachesCurrent)
    (hconcrete : default.isConcrete) :
    (∀ side share, g.Separates side share →
      ((∃ r, g.tryInfer default = .ok r) ↔
        (∃ r, (g.restrict side share).tryInfer default = .ok r) ∧
          ∃ r, (g.restrict (fun name ↦ !side name) fun channel ↦ !share channel).tryInfer
            default = .ok r) ∧
      ∀ r, g.tryInfer default = .ok r →
        (g.restrict side share).tryInfer default = .ok (r.restrict side share) ∧
          (g.restrict (fun name ↦ !side name) fun channel ↦ !share channel).tryInfer default =
            .ok (r.restrict (fun name ↦ !side name) fun channel ↦ !share channel)) ∧
      ∀ name pin type, g.Unwired ⟨name, pin⟩ →
        (default.IsWritable → (g.retype name pin type).outcome default = g.outcome default ∧
          (stateAfter (g.tryInfer default)).SameResults
            (stateAfter ((g.retype name pin type).tryInfer default))) ∧
        (∀ m, default.written = .error m → ∀ f, f ≠ .stopped (.malformed m) →
          ((g.retype name pin type).outcome default = some f ↔ g.outcome default = some f)) ∧
        ∀ r r', g.tryInfer default = .ok r → (g.retype name pin type).tryInfer default = .ok r' →
          r.SameResults r' := by
  refine ⟨fun side share hsep ↦ ⟨?_, fun r hinfer ↦ ⟨?_, ?_⟩⟩, fun name pin type hfree ↦ ?_⟩
  · exact hsep.tryInfer_ok_iff hcurrent hconcrete
  · exact hsep.tryInfer_restrict hcurrent hconcrete hinfer
  · exact hsep.not.tryInfer_restrict hcurrent hconcrete hinfer
  · exact hfree.tryInfer_retype type default

/-- Two wirings side by side: values go from a maker to a reader, slices from a source to a
splitter. The maker has a pin to which nothing is connected. -/
def sideBySide : Graph where
  nodes := .ofList [
    ("maker", {
      part := .code { pins := .ofList [("output", ⟨.elem, .output⟩), ("spare", ⟨.slice, .input⟩)] }
      connections := .ofList [("output", .string "values"), ("spare", noConnection)] }),
    ("source", {
      part := .code { pins := .ofList [("output", ⟨.slice, .output⟩)] }
      connections := .ofList [("output", .string "slices")] }),
    ("reader", {
      part := .transform [] ""
      connections := .ofList [("input", .string "values"), ("output", noConnection)] }),
    ("splitter", {
      part := .unslicer
      connections := .ofList [("input", .string "slices"), ("output", noConnection)] })]
  channels := .ofList [
    ("slices", { pins := [⟨"source", "output"⟩, ⟨"splitter", "input"⟩].foldl PinSet.insert ∅ }),
    ("values", { pins := [⟨"maker", "output"⟩, ⟨"reader", "input"⟩].foldl PinSet.insert ∅ })]

/-- The maker and the reader are inferred without the others, and the spare pin may have the
declared type of a transformation. -/
theorem CachesCurrent.tryInfer_local_sideBySide :
    sideBySide.CachesCurrent ∧ (TypeExpr.name "int").isConcrete ∧
      ∃ side share r r', sideBySide.Separates side share ∧
        sideBySide.Unwired ⟨"maker", "spare"⟩ ∧
        sideBySide.tryInfer (.name "int") = .ok r ∧
        (sideBySide.restrict side share).nodes.keys = ["maker", "reader"] ∧
        (sideBySide.restrict side share).tryInfer (.name "int") = .ok (r.restrict side share) ∧
        (sideBySide.retype "maker" "spare" .source).tryInfer (.name "int") = .ok r' ∧
        r.SameResults r' := by
  have hcurrent : sideBySide.CachesCurrent := by decide +kernel
  have hsep : sideBySide.Separates (· ∈ ["maker", "reader"]) (· = "values") := by decide +kernel
  have hfree : sideBySide.Unwired ⟨"maker", "spare"⟩ := by decide +kernel
  have hwritable : (TypeExpr.name "int").IsWritable := .name "int"
  have houtcome : sideBySide.outcome (.name "int") = none := by cbv
  obtain ⟨hapart, hretype⟩ := hcurrent.tryInfer_local (rfl : (TypeExpr.name "int").isConcrete)
  obtain ⟨-, hsides⟩ := hapart _ _ hsep
  obtain ⟨hsame, -, hpublished⟩ := hretype "maker" "spare" .source hfree
  obtain ⟨r, hrun⟩ := outcome_eq_none_iff.1 houtcome
  obtain ⟨r', hrun'⟩ := outcome_eq_none_iff.1 ((hsame hwritable).1.trans houtcome)
  exact ⟨hcurrent, rfl, _, _, r, r', hsep, hfree, hrun, by decide +kernel, (hsides r hrun).1, hrun',
    hpublished r r' hrun hrun'⟩

/-- A block of code that nothing is connected to. -/
def idle : Graph where
  nodes := .ofList [
    ("only", {
      part := .code { pins := .ofList [("spare", ⟨.elem, .input⟩)] }
      connections := .ofList [("spare", noConnection)] })]

/-- The type that is declared for a pin to which nothing is connected decides whether an inference
succeeds, if the default is a tree without a text: the parameter `$T` would get this text, and `int`
has no parameters. -/
theorem outcome_retype_textless :
    ∃ (type : DeclaredType) (default : TypeExpr), idle.CachesCurrent ∧ nilName ∉ idle.channels ∧
      default.isConcrete ∧ idle.Unwired ⟨"only", "spare"⟩ ∧
      idle.outcome default = some (.stopped (.malformed ⟨"chan", 0⟩)) ∧
      (idle.retype "only" "spare" type).outcome default = none :=
  ⟨⟨"int", .name "int", TypeExpr.ofText_int⟩, .compound "chan" [], by decide +kernel,
    by decide +kernel, rfl, by decide +kernel, by cbv, by cbv⟩

end Graph

end ChannelGraph
