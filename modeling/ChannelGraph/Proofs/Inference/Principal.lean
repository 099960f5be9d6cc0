import ChannelGraph.Proofs.Inference.Commit
import Mathlib

/-!
# Inference is exact and principal

With current caches an inference succeeds exactly if there are types for the parameters under which
the pins of every channel agree. What it publishes then comes from the most general such types:
a channel gets the instance of the declared type of any of its pins, and the default stands only
where all solutions leave the type open (`infer_principal`).
-/

namespace ChannelGraph

namespace Graph

variable {g g' : Graph} {default : TypeExpr}

/-- Types for the parameters that solve the constraints of the wiring, and through which every
other solution factors. -/
structure MostGeneralSolution (g : Graph) (μ : TypeParam → TypeExpr) : Prop where
  /-- The constraints are solved. -/
  solution : g.Solution μ
  /-- Any other solution is an instance. -/
  factors : ∀ σ, g.Solution σ → ∀ q, (μ q).substitute σ = σ q

/-- The values of the bindings at the end are a most general solution. -/
theorem CachesCurrent.mostGeneralSolution {p : Pass} (hcurrent : g.CachesCurrent)
    (h : Pass.Solved g p) : g.MostGeneralSolution p.bindings.value := by
  refine ⟨hcurrent.cachedSolution_iff.1 h.cachedSolution, fun σ hσ q ↦ ?_⟩
  exact h.substitute_value (hcurrent.cachedSolution_iff.2 hσ) q

theorem mostGeneralSolution_of_solved {p : Pass} (hcurrent : g.CachesCurrent)
    (h : Pass.Solved g.clearTypes p) : g.MostGeneralSolution p.bindings.value := by
  have hμ := hcurrent.clearTypes.mostGeneralSolution h
  refine ⟨solution_clearTypes_iff.1 hμ.solution, fun σ hσ ↦ ?_⟩
  exact hμ.factors σ (solution_clearTypes_iff.2 hσ)

/-- With current caches an inference stops only because there is no solution. -/
theorem CachesCurrent.exists_incompatible {f : InferenceFault} (hcurrent : g.CachesCurrent)
    (h : Pass.Justified g.clearTypes f) :
    (∃ channel pin conflict message, f = .incompatible channel pin conflict message) ∧
      ¬∃ σ, g.Solution σ := by
  cases h with
  | unwired hpin hnone =>
    have hchannel := mem_channels_of_mem_cachedPins hpin
    obtain ⟨e, hwired⟩ := (mem_cachedPins_iff hcurrent.clearTypes hchannel).1 hpin
    obtain ⟨-, hstart⟩ := (hcurrent.clearTypes.pinType?_start hchannel).2 hwired
    rw [hnone] at hstart
    cases hstart
  | incompatible hpin hnone conflict message =>
    refine ⟨⟨_, _, conflict, message, rfl⟩, ?_⟩
    rintro ⟨σ, hσ⟩
    exact hnone σ (hcurrent.clearTypes.cachedSolution_iff.2 (solution_clearTypes_iff.2 hσ))

/-- A channel gets the final form of the type that any of its cached pins started with. -/
theorem type_publishedChannel_of_cached {p : Pass} (h : Pass.Solved g p) {channel : String}
    {pin : PinRef} {e : TypeExpr} (hpin : pin ∈ g.cachedPins channel)
    (hstart : (Pass.start g).pinType? pin = some e) (c : Channel) :
    (p.publishedChannel default channel c).type = some (p.finalType default e) := by
  obtain ⟨t, e', ht, he', hentails⟩ := h.settled channel pin hpin
  rw [hstart] at he'
  obtain rfl := Option.some.inj he'
  rw [Pass.publishedChannel, ht, ← Pass.finalType_congr h.acyclic default hentails]
  rfl

/-- A channel with pins gets the final form of the declared type of each of them. -/
theorem type_publishedChannel_of_wired {p : Pass} (hcurrent : g.CachesCurrent)
    (h : Pass.Solved g p) {channel : String} {pin : PinRef} {e : TypeExpr}
    (hchannel : channel ∈ g.channels) (hwired : g.Wired channel pin e) (c : Channel) :
    (p.publishedChannel default channel c).type = some (p.finalType default e) := by
  obtain ⟨hpin, hstart⟩ := (hcurrent.pinType?_start hchannel).2 hwired
  exact type_publishedChannel_of_cached h hpin hstart c

/-- A channel without pins gets the default. -/
theorem type_publishedChannel_of_not_wired {p : Pass} (hcurrent : g.CachesCurrent)
    (h : Pass.Solved g p) (hconcrete : default.isConcrete) {channel : String}
    (hchannel : channel ∈ g.channels) (hnone : ∀ pin e, ¬g.Wired channel pin e) (c : Channel) :
    (p.publishedChannel default channel c).type = some default := by
  have hjoin : (p.channelTypes.get? channel).join = none := by
    rw [Option.eq_none_iff_forall_ne_some]
    intro t ht
    obtain ⟨-, pin, hpin, -⟩ := h.channelType channel t (Option.join_eq_some_iff.1 ht)
    obtain ⟨e, hwired⟩ := (mem_cachedPins_iff hcurrent hchannel).1 hpin
    exact hnone pin e hwired
  rw [Pass.publishedChannel, hjoin, Option.getD_none, p.finalType_of_isConcrete default hconcrete]

/-- For a graph with current caches and a concrete default that can be read from a text, an
inference succeeds exactly if the constraints of the wiring have a solution, and otherwise it
stops with an incompatibility and leaves no types. If it succeeds, there is a most general
solution of which every channel with pins shows the instance of the declared type of any pin,
with the default for the parameters that are left; the other channels show the default. -/
theorem infer_principal {scope text : String} (hcurrent : g.CachesCurrent)
    (hdefault : TypeExpr.ofText scope text = .ok default) (hconcrete : default.isConcrete) :
    ((∃ g', g.infer default = .ok g') ↔ ∃ σ, g.Solution σ) ∧
      ((¬∃ σ, g.Solution σ) → ∃ channel pin conflict message,
        g.infer default =
          .error ⟨.incompatible channel pin conflict message, g.clearTypes⟩) ∧
      ∀ g', g.infer default = .ok g' → ∃ μ, g.MostGeneralSolution μ ∧
        ∀ channel c, g.channels.get? channel = some c →
          ∃ c', g'.channels.get? channel = some c' ∧
            (∀ pin e, g.Wired channel pin e →
              c'.type = some ((e.substitute μ).groundWith default)) ∧
            ((∀ pin e, ¬g.Wired channel pin e) → c'.type = some default) := by
  rcases g.infer_cases (TypeExpr.ofText_isWritable hdefault) with ⟨f, hrun, hf⟩ | ⟨p, hp, hrun⟩
  · obtain ⟨⟨channel, pin, conflict, message, rfl⟩, hnone⟩ := hcurrent.exists_incompatible hf
    refine ⟨⟨?_, fun hsome ↦ absurd hsome hnone⟩, fun _ ↦ ⟨_, _, _, _, hrun⟩, ?_⟩
    · rintro ⟨g', hok⟩
      rw [hrun] at hok
      cases hok
    · intro g' hok
      rw [hrun] at hok
      cases hok
  · have hμ := mostGeneralSolution_of_solved hcurrent hp
    refine ⟨⟨fun _ ↦ ⟨_, hμ.solution⟩, fun _ ↦ ⟨_, hrun⟩⟩, fun hnone ↦ ?_, fun g' hok ↦ ?_⟩
    · exact absurd ⟨_, hμ.solution⟩ hnone
    · rw [hrun] at hok
      cases hok
      refine ⟨_, hμ, fun channel c hc ↦ ?_⟩
      have hchannel : channel ∈ g.clearTypes.channels :=
        mem_channels_clearTypes.2 (OrderedMap.mem_iff_exists.2 ⟨c, hc⟩)
      -- a channel is published by itself, from what the visits found for it
      have hget : (p.published default g.clearTypes).channels.get? channel =
          some (p.publishedChannel default channel { c with type := none }) := by
        rw [Pass.get?_channels_published, get?_channels_clearTypes, hc]
        rfl
      refine ⟨_, hget, fun pin e hwired ↦ ?_, fun hnone ↦ ?_⟩
      · exact type_publishedChannel_of_wired hcurrent.clearTypes hp hchannel
          (wired_clearTypes_iff.2 hwired) _
      · refine type_publishedChannel_of_not_wired hcurrent.clearTypes hp hconcrete hchannel ?_ _
        exact fun pin e hwired ↦ hnone pin e (wired_clearTypes_iff.1 hwired)

/-- The output of the transformation in `unslicedTwice` has to be a slice of slices. -/
theorem infer_principal_unslicedTwice :
    unslicedTwice.CachesCurrent ∧ TypeExpr.ofText "" "int" = .ok (.name "int") ∧
      (TypeExpr.name "int").isConcrete ∧
      ∃ g' μ, unslicedTwice.infer (.name "int") = .ok g' ∧ unslicedTwice.MostGeneralSolution μ ∧
        (g'.channels.get? "outer").bind Channel.type =
          some (.compound "[]" [.compound "[]" [.name "int"]]) := by
  have hrun : ((unslicedTwice.infer (.name "int")).toOption.bind fun g' ↦
      (g'.channels.get? "outer").bind Channel.type) =
        some (.compound "[]" [.compound "[]" [.name "int"]]) := by
    cbv
  obtain ⟨-, -, hprincipal⟩ := infer_principal cachesCurrent_unslicedTwice TypeExpr.ofText_int rfl
  refine ⟨cachesCurrent_unslicedTwice, TypeExpr.ofText_int, rfl, ?_⟩
  cases hinfer : unslicedTwice.infer (.name "int") with
  | error i => rw [hinfer] at hrun; cases hrun
  | ok g' =>
    rw [hinfer] at hrun
    obtain ⟨μ, hμ, -⟩ := hprincipal g' hinfer
    exact ⟨g', μ, rfl, hμ, hrun⟩

end Graph

end ChannelGraph
