import ChannelGraph.Proofs.Inference.Principal
import ChannelGraph.Proofs.TypeExpr.RoundTrip

/-!
# Published texts

The types that an inference publishes are put together by substitution, so any constructor of the
notation can end up under any other. Nothing else can: names and constructors come from the
declared types and the default (`MostGeneralSolution.builtFrom`). So the published texts are read
again as the types with the arrows behind `chan` moved to this word, and different types never have
the same text (`infer_legibleTexts`). A channel of channels that can only be received from is not
found again (`channelOfReceivers_not_read`).

Names are found again, except those of opaque types in which dots stand apart that run together when
the name is written (`TypeExpr.namesRead_of_ofText`).
-/

namespace ChannelGraph

/-- No dots run together in the tokens of a text. -/
def DotsApart (text : String) : Prop :=
  ∀ ts ∈ (Token.ofText text.toList).toOption, Token.DotsApart ts

instance (text : String) : Decidable (DotsApart text) :=
  inferInstanceAs (Decidable (∀ ts ∈ (Token.ofText text.toList).toOption, Token.DotsApart ts))

namespace TypeExpr

theorem isName_int : IsName "int" :=
  ofText_int

/-- What is read from a text consists of names and of constructors of the notation. -/
theorem builtFrom_of_ofText {scope text : String} {e : TypeExpr} (h : ofText scope text = .ok e) :
    BuiltFrom ReadsAsName IsConstructor e := by
  obtain ⟨ts, hts, hspells⟩ := ofText_eq_ok_iff.1 h
  have hsolid := Token.solid_of_ofText hts
  exact hspells.builtFrom
    (fun us s hus hs ↦ hs.readsAsName fun t ht ↦ hsolid t (hus.subset ht)) hsolid

/-- The names in a type that is read from a text are read from their own texts, unless dots run
together when they are written. -/
theorem namesRead_of_ofText {scope text : String} {e : TypeExpr} (h : ofText scope text = .ok e)
    (hdots : DotsApart text) : e.NamesRead := by
  obtain ⟨ts, hts, hspells⟩ := ofText_eq_ok_iff.1 h
  have hmem : ts ∈ (Token.ofText text.toList).toOption := by
    rw [hts]
    rfl
  have hsolid := Token.solid_of_ofText hts
  have hbuilt : BuiltFrom IsName IsConstructor e := hspells.builtFrom
    (fun us s hus hs ↦
      hs.isName (fun t ht ↦ hsolid t (hus.subset ht)) ((hdots ts hmem).part hus)) hsolid
  exact hbuilt.mono (fun _ hs ↦ hs) fun _ _ _ ↦ trivial

example : (ofText "" "struct\x7ba . . . b\x7d").toOption = some (name "struct\x7b a...b \x7d") ∧
    (ofText "" "struct\x7b a...b \x7d").toOption = some (name "struct\x7b a ...b \x7d") := by
  decide +kernel

end TypeExpr

namespace Graph

open TypeExpr (BuiltFrom ReadsAsName IsName IsConstructor)

variable {g g' : Graph} {default e : TypeExpr} {t : String} {N : String → Prop}
  {C : String → Nat → Prop}

/-- The state at the end of an inference that does not stop. -/
def lastPass? (g : Graph) : Option Pass :=
  let first := Pass.start g.clearTypes
  (Pass.run g.clearTypes first.visitBound first).toOption

/-- The type that a parameter of a node stands for at the end of an inference. -/
def resolvedParam? (g : Graph) (default : TypeExpr) (name ident : String) : Option TypeExpr :=
  g.lastPass?.bind fun last ↦ (last.settle default (.param ⟨name, ident⟩)).toOption

/-- A text is published for a type that an inference has found. -/
inductive Publishes (g g' : Graph) (default : TypeExpr) (t : String) : TypeExpr → Prop
  /-- The type of a channel has the text. -/
  | channel {name : String} {c : Channel} {e : TypeExpr} (hc : g'.channels.get? name = some c)
    (htype : c.type = some e) (htext : e.written = .ok t) : Publishes g g' default t e
  /-- The text is kept for a type parameter of a node. -/
  | param {name ident : String} {n : Node} {e : TypeExpr} (hn : g'.nodes.get? name = some n)
    (htext : n.typeParams.get? ident = some t)
    (he : g.resolvedParam? default name ident = some e) : Publishes g g' default t e

/-- The types that the pins of a graph declare are built from certain names and constructors. -/
def DeclaredFrom (g : Graph) (N : String → Prop) (C : String → Nat → Prop) : Prop :=
  ∀ name n x pin, g.nodes.get? name = some n → n.pins.get? x = some pin →
    BuiltFrom N C pin.type.tree

/-- How the published texts stand for the types that an inference has found. -/
structure LegibleTexts (g g' : Graph) (default : TypeExpr) : Prop where
  /-- Every channel has a type, and it has a text. -/
  channel : ∀ name c, g'.channels.get? name = some c →
    ∃ e t, c.type = some e ∧ Publishes g g' default t e
  /-- Every text of a type parameter is that of the type for which the parameter stands. -/
  param : ∀ name n ident t, g'.nodes.get? name = some n → n.typeParams.get? ident = some t →
    ∃ e, g.resolvedParam? default name ident = some e ∧ e.written = .ok t
  /-- A text is read with the arrows behind `chan` moved to this word. -/
  reread : ∀ t e, Publishes g g' default t e → ∀ scope, TypeExpr.ofText scope t = .ok e.reread
  /-- So it is read as the type exactly if no arrow stands there and no name changes. -/
  exact : ∀ t e, Publishes g g' default t e →
    ∀ scope, TypeExpr.ofText scope t = .ok e ↔ e.isUnambiguous ∧ e.NamesRead
  /-- Different types have different texts. -/
  injective : ∀ t e e', Publishes g g' default t e → Publishes g g' default t e' → e = e'
  /-- Names in published types are read from their texts if those in declared types and in the
  default are. -/
  namesRead : (g.DeclaredFrom IsName fun _ _ ↦ True) → default.NamesRead →
    ∀ t e, Publishes g g' default t e → e.NamesRead

/-! ### What published types are built from -/

/-- In the texts of declared types no dots run together. -/
def DotsApart (g : Graph) : Prop :=
  ∀ n ∈ g.nodes.values, ∀ pin ∈ n.pins.values, ChannelGraph.DotsApart pin.type.text

instance (g : Graph) : Decidable g.DotsApart :=
  inferInstanceAs (Decidable (∀ n ∈ g.nodes.values, ∀ pin ∈ n.pins.values,
    ChannelGraph.DotsApart pin.type.text))

theorem DotsApart.declaredFrom (h : g.DotsApart) : g.DeclaredFrom IsName fun _ _ ↦ True := by
  intro name n x pin hn hpin
  refine TypeExpr.namesRead_of_ofText pin.type.reads (h n ?_ pin ?_)
  · exact OrderedMap.mem_values_of_get? hn
  · exact OrderedMap.mem_values_of_get? hpin

/-- The declared type of a wired pin is built from names and constructors that are declared. -/
theorem DeclaredFrom.of_wired (hdeclared : g.DeclaredFrom N C) {channel : String} {pin : PinRef}
    (h : g.Wired channel pin e) : BuiltFrom N C e := by
  obtain ⟨n, declared, hn, hpin, -, rfl⟩ := h
  exact (hdeclared _ _ _ _ hn hpin).substitute fun _ _ ↦ .param _

/-- A most general solution consists of what the declared types consist of: with anything else cut
out it is a solution too. -/
theorem MostGeneralSolution.builtFrom {μ : TypeParam → TypeExpr} (h : g.MostGeneralSolution μ)
    (hdeclared : g.DeclaredFrom N C) {filler : String} (hfiller : N filler) (q : TypeParam) :
    BuiltFrom N C (μ q) := by
  have htrimmed : g.Solution fun q ↦ TypeExpr.trim N C filler (μ q) := by
    -- nothing in a declared type is cut out, so both sides are cut like their instances
    intro channel hchannel pin e pin' e' hwired hwired'
    rw [(hdeclared.of_wired hwired).substitute_trim, (hdeclared.of_wired hwired').substitute_trim,
      h.solution channel hchannel pin e pin' e' hwired hwired']
  exact TypeExpr.builtFrom_of_substitute_eq_trim hfiller (h.factors _ htrimmed q)

/-- What an inference publishes is what it finds at its end. -/
theorem exists_lastPass?_of_infer (hdefault : default.IsWritable) (h : g.infer default = .ok g') :
    ∃ p, g.lastPass? = some p ∧ Pass.Solved g.clearTypes p ∧
      g' = p.published default g.clearTypes := by
  have hreaches := Pass.run_start_reaches g.clearTypes
  unfold infer at h
  unfold lastPass?
  dsimp only at h ⊢
  generalize Pass.run g.clearTypes _ _ = out at hreaches h
  cases hreaches with
  | stopped => cases h
  | @reached p hp =>
    dsimp only at h
    rw [Pass.commit_eq hp.toSound hdefault] at h
    exact ⟨p, rfl, hp, (Except.ok.inj h).symm⟩

/-- What is published for a parameter is its final type. -/
theorem resolvedParam?_eq {p : Pass} (hlast : g.lastPass? = some p)
    (hp : Pass.Solved g.clearTypes p) (default : TypeExpr) (name ident : String) :
    g.resolvedParam? default name ident = some (p.finalType default (.param ⟨name, ident⟩)) := by
  rw [resolvedParam?, hlast, Option.bind_some, Pass.settle_eq hp.acyclic]
  rfl

/-- A published type is the final form of the default, of a declared type or of a parameter, and the
text is its text. -/
theorem Publishes.exists_finalType {p : Pass} (hcurrent : g.CachesCurrent)
    (hdefault : default.IsWritable) (hconcrete : default.isConcrete)
    (hlast : g.lastPass? = some p) (hp : Pass.Solved g.clearTypes p)
    (h : Publishes g (p.published default g.clearTypes) default t e) :
    e.written = .ok t ∧ ∃ e₀, e = p.finalType default e₀ ∧
      (e₀ = default ∨ (∃ channel pin, g.Wired channel pin e₀) ∨ ∃ q, e₀ = .param q) := by
  cases h with
  | @channel name c e hc htype htext =>
    refine ⟨htext, ?_⟩
    rw [Pass.get?_channels_published, Option.map_eq_some_iff] at hc
    obtain ⟨c₀, hc₀, rfl⟩ := hc
    have hchannel : name ∈ g.clearTypes.channels := OrderedMap.mem_iff_exists.2 ⟨c₀, hc₀⟩
    -- a channel without pins shows the default, any other one the type of one of its pins
    by_cases hwired : ∃ pin e, g.clearTypes.Wired name pin e
    · obtain ⟨pin, e₀, hwired⟩ := hwired
      rw [type_publishedChannel_of_wired hcurrent.clearTypes hp hchannel hwired] at htype
      exact ⟨e₀, (Option.some.inj htype).symm,
        .inr (.inl ⟨name, pin, wired_clearTypes_iff.1 hwired⟩)⟩
    · have hnone : ∀ pin e, ¬g.clearTypes.Wired name pin e := fun pin e h ↦ hwired ⟨pin, e, h⟩
      rw [type_publishedChannel_of_not_wired hcurrent.clearTypes hp hconcrete hchannel hnone]
        at htype
      refine ⟨default, ?_, .inl rfl⟩
      rw [p.finalType_of_isConcrete default hconcrete, Option.some.inj htype]
  | @param name ident n e hn htext he =>
    rw [resolvedParam?_eq hlast hp] at he
    obtain rfl := Option.some.inj he
    rw [Pass.get?_nodes_published, Option.map_eq_some_iff] at hn
    obtain ⟨n₀, -, rfl⟩ := hn
    obtain ⟨texts, htexts, -, hwritten⟩ :=
      Pass.exists_paramTexts hp.acyclic (Pass.paramsWritable hp.toSound hdefault name n₀)
    rw [Pass.publishedNode, htexts] at htext
    exact ⟨hwritten ident t htext, _, rfl, .inr (.inr ⟨_, rfl⟩)⟩

/-- Published types have the names and constructors of the declared types and of the default. -/
theorem Publishes.builtFrom (filler : String) (hcurrent : g.CachesCurrent)
    (hwritable : default.IsWritable) (hconcrete : default.isConcrete)
    (hinfer : g.infer default = .ok g') (h : Publishes g g' default t e)
    (hdeclared : g.DeclaredFrom N C) (hdefault : BuiltFrom N C default) (hfiller : N filler) :
    BuiltFrom N C e := by
  obtain ⟨p, hlast, hp, rfl⟩ := exists_lastPass?_of_infer hwritable hinfer
  obtain ⟨-, e₀, rfl, he₀⟩ := h.exists_finalType hcurrent hwritable hconcrete hlast hp
  have hvalue : ∀ q, BuiltFrom N C (p.bindings.value q) :=
    (mostGeneralSolution_of_solved hcurrent hp).builtFrom hdeclared hfiller
  have hstart : BuiltFrom N C e₀ := by
    rcases he₀ with rfl | ⟨channel, pin, hwired⟩ | ⟨q, rfl⟩
    · exact hdefault
    · exact hdeclared.of_wired hwired
    · exact .param q
  exact (hstart.substitute fun q _ ↦ hvalue q).substitute fun _ _ ↦ hdefault

/-- All declared types were read from texts, so their names and constructors can be read again. -/
theorem declaredFrom_isConstructor (g : Graph) : g.DeclaredFrom ReadsAsName IsConstructor :=
  fun _ _ _ pin _ _ ↦ TypeExpr.builtFrom_of_ofText pin.type.reads

/-- A published type is of the notation. -/
theorem Publishes.legible {scope text : String} (hcurrent : g.CachesCurrent)
    (hdefault : TypeExpr.ofText scope text = .ok default) (hconcrete : default.isConcrete)
    (hinfer : g.infer default = .ok g') (h : Publishes g g' default t e) : TypeExpr.Legible e := by
  have hwritable := TypeExpr.ofText_isWritable hdefault
  have hbuilt := h.builtFrom "int" hcurrent hwritable hconcrete hinfer
    g.declaredFrom_isConstructor (TypeExpr.builtFrom_of_ofText hdefault)
    TypeExpr.isName_int.readsAsName
  obtain ⟨p, hlast, hp, rfl⟩ := exists_lastPass?_of_infer hwritable hinfer
  obtain ⟨-, e₀, rfl, -⟩ := h.exists_finalType hcurrent hwritable hconcrete hlast hp
  exact hbuilt.legible (p.isConcrete_finalType hconcrete e₀)

/-- Every channel is published with a type that has a text. -/
theorem exists_written_of_published {p : Pass} {name : String} {c : Channel}
    (hwritable : default.IsWritable) (hp : Pass.Solved g.clearTypes p)
    (hc : (p.published default g.clearTypes).channels.get? name = some c) :
    ∃ e t, c.type = some e ∧ e.written = .ok t := by
  rw [Pass.get?_channels_published, Option.map_eq_some_iff] at hc
  obtain ⟨c₀, -, rfl⟩ := hc
  have hstart : ((p.channelTypes.get? name).join.getD default).IsWritable := by
    cases htype : (p.channelTypes.get? name).join with
    | none => exact hwritable
    | some t => exact (hp.channelType name t (Option.join_eq_some_iff.1 htype)).1.isWritable
  obtain ⟨t, ht⟩ := (Pass.isWritable_finalType hp.toSound hwritable hstart).exists_written
  exact ⟨_, t, rfl, ht⟩

/-- For a graph with current caches and a concrete default that can be read from a text, a
successful inference publishes texts that are read again, except that the arrow of a channel that
can only be received from goes to a `chan` in front of it and that dots in names may be grouped
anew. Where neither happens the texts are read as the types that were found. No two types have the
same text in any case. -/
theorem infer_legibleTexts {scope text : String} (hcurrent : g.CachesCurrent)
    (hdefault : TypeExpr.ofText scope text = .ok default) (hconcrete : default.isConcrete)
    (h : g.infer default = .ok g') : g.LegibleTexts g' default := by
  have hwritable := TypeExpr.ofText_isWritable hdefault
  obtain ⟨p, hlast, hp, rfl⟩ := exists_lastPass?_of_infer hwritable h
  have hwritten : ∀ t e, Publishes g (p.published default g.clearTypes) default t e →
      e.written = .ok t := fun t e hpub ↦
    (hpub.exists_finalType hcurrent hwritable hconcrete hlast hp).1
  have hlegible : ∀ t e, Publishes g (p.published default g.clearTypes) default t e →
      TypeExpr.Legible e := fun t e hpub ↦ hpub.legible hcurrent hdefault hconcrete h
  -- reading a published text gives the type that the reader makes of it, which no scope changes
  have hread : ∀ t e, Publishes g (p.published default g.clearTypes) default t e →
      ∀ scope, TypeExpr.ofText scope t = .ok e.reread := by
    intro t e hpub
    obtain ⟨t', ht', hread⟩ := (hlegible t e hpub).ofText_written
    obtain rfl : t' = t := Except.ok.inj (ht'.symm.trans (hwritten t e hpub))
    exact hread
  refine ⟨fun name c hc ↦ ?_, fun name n ident t hn ht ↦ ?_, hread, fun t e hpub scope ↦ ?_,
    fun t e e' hpub hpub' ↦ ?_, fun hdeclared hdefault' t e hpub ↦ ?_⟩
  · obtain ⟨e, t, htype, ht⟩ := exists_written_of_published hwritable hp hc
    exact ⟨e, t, htype, .channel hc htype ht⟩
  · have he := resolvedParam?_eq hlast hp default name ident
    exact ⟨_, he, hwritten t _ (.param hn ht he)⟩
  · rw [hread t e hpub scope, Except.ok.injEq, (hlegible t e hpub).reread_eq_self_iff]
  · exact (hlegible t e hpub).eq_of_written (hlegible t e' hpub') (hwritten t e hpub)
      (hwritten t e' hpub')
  · exact hpub.builtFrom "int" hcurrent hwritable hconcrete h hdeclared hdefault'
      TypeExpr.isName_int

/-- A channel of channels that can only be received from: its type is published for the pins of
the last node as well. -/
def channelOfReceivers : Graph where
  nodes := .ofList [
    ("maker", {
      part := .code { pins := .ofList [("output", ⟨⟨"<-chan int", .compound "<-chan" [.name "int"],
        DeclaredType.ofText_of_toOption (by decide +kernel)⟩, .output⟩)] }
      connections := .ofList [("output", .string "single")] }),
    ("wrapper", {
      part := .code { pins := .ofList [("input", ⟨.elem, .input⟩),
        ("output", ⟨⟨"chan $T", .compound "chan" [.param ⟨"", "T"⟩],
          DeclaredType.ofText_of_toOption (by decide +kernel)⟩, .output⟩)] }
      connections := .ofList [("input", .string "single"), ("output", .string "wrapped")] }),
    ("user", {
      part := .transform [] ""
      connections := .ofList [("input", .string "wrapped"), ("output", noConnection)] })]
  channels := .ofList [
    ("single", {
      pins := [⟨"maker", "output"⟩, ⟨"wrapper", "input"⟩].foldl PinSet.insert ∅ }),
    ("wrapped", {
      pins := [⟨"user", "input"⟩, ⟨"wrapper", "output"⟩].foldl PinSet.insert ∅ })]

/-- The caches of the graph with a channel of receivers are current. -/
theorem cachesCurrent_channelOfReceivers : channelOfReceivers.CachesCurrent := by
  decide +kernel

/-- The channel `wrapped` gets the type of a channel of receivers. -/
theorem exists_infer_channelOfReceivers : ∃ g' c, channelOfReceivers.infer (.name "int") = .ok g' ∧
    g'.channels.get? "wrapped" = some c ∧
      c.type = some (.compound "chan" [.compound "<-chan" [.name "int"]]) := by
  have hrun : ((channelOfReceivers.infer (.name "int")).toOption.bind fun g' ↦
      (g'.channels.get? "wrapped").bind Channel.type) =
        some (.compound "chan" [.compound "<-chan" [.name "int"]]) := by
    cbv
  cases hinfer : channelOfReceivers.infer (.name "int") with
  | error i => rw [hinfer] at hrun; cases hrun
  | ok g' =>
    rw [hinfer] at hrun
    have hchannel : (g'.channels.get? "wrapped").bind Channel.type =
        some (.compound "chan" [.compound "<-chan" [.name "int"]]) := hrun
    obtain ⟨c, hc, htype⟩ := Option.bind_eq_some_iff.1 hchannel
    exact ⟨g', c, rfl, hc, htype⟩

/-- The text of the channel `wrapped` is read as a channel that can only be sent to. All names are
read from their own texts. -/
theorem infer_legibleTexts_channelOfReceivers :
    channelOfReceivers.CachesCurrent ∧ TypeExpr.ofText "" "int" = .ok (.name "int") ∧
      (TypeExpr.name "int").isConcrete ∧
      ∃ g', channelOfReceivers.infer (.name "int") = .ok g' ∧
        channelOfReceivers.LegibleTexts g' (.name "int") ∧
        (∀ t e, Publishes channelOfReceivers g' (.name "int") t e → e.NamesRead) ∧
        TypeExpr.ofText "" "chan <-chan int" =
          .ok (.compound "chan<-" [.compound "chan" [.name "int"]]) := by
  obtain ⟨g', c, hinfer, hc, htype⟩ := exists_infer_channelOfReceivers
  have hlegible :=
    infer_legibleTexts cachesCurrent_channelOfReceivers TypeExpr.ofText_int rfl hinfer
  have hdots : channelOfReceivers.DotsApart := by decide +kernel
  have hnames := hlegible.namesRead hdots.declaredFrom (.name TypeExpr.isName_int)
  have hpub : Publishes channelOfReceivers g' (.name "int") "chan <-chan int"
      (.compound "chan" [.compound "<-chan" [.name "int"]]) := .channel hc htype rfl
  have hread := hlegible.reread _ _ hpub ""
  have hint : TypeExpr.rereadName "int" = "int" :=
    TypeExpr.isName_int.readsAsName.isName_iff.1 TypeExpr.isName_int
  simp only [TypeExpr.reread, hint] at hread
  exact ⟨cachesCurrent_channelOfReceivers, TypeExpr.ofText_int, rfl, g', hinfer, hlegible,
    hnames, hread⟩

/-- There is a published text that is not read as the type for which it stands. -/
theorem channelOfReceivers_not_read :
    channelOfReceivers.CachesCurrent ∧ TypeExpr.ofText "" "int" = .ok (.name "int") ∧
      (TypeExpr.name "int").isConcrete ∧
      ∃ g' t e, channelOfReceivers.infer (.name "int") = .ok g' ∧
        Publishes channelOfReceivers g' (.name "int") t e ∧ TypeExpr.ofText "" t ≠ .ok e := by
  obtain ⟨g', c, hinfer, hc, htype⟩ := exists_infer_channelOfReceivers
  have hread : TypeExpr.ofText "" "chan <-chan int" =
      .ok (.compound "chan<-" [.compound "chan" [.name "int"]]) :=
    DeclaredType.ofText_of_toOption (by decide +kernel)
  refine ⟨cachesCurrent_channelOfReceivers, TypeExpr.ofText_int, rfl, g', "chan <-chan int", _,
    hinfer, .channel hc htype rfl, ?_⟩
  rw [hread]
  simp

end Graph

end ChannelGraph
