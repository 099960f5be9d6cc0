import ChannelGraph.Proofs.Inference.Principal
import ChannelGraph.Proofs.Inference.Sweep

/-!
# Blame is exact

When an inference is stopped by incompatible types, it names a channel and a pin. With current
caches these are the first ones where the constraints of the wiring fail (`Graph.FirstConflict`):
those of the channels before can be solved, also together with equal types for the pins before, and
those with one more pin cannot. Once every channel was visited, no visit can stop the inference or
bind anything (`infer_blame`).
-/

namespace ChannelGraph

namespace Graph

variable {g : Graph} {channel : String} {pin : PinRef} {σ : TypeParam → TypeExpr}
  {before : List String} {earlier : List PinRef}

/-- Types for the parameters under which all pins of one channel have the same type, for each of
some channels. -/
def SolutionOn (g : Graph) (channels : List String) (σ : TypeParam → TypeExpr) : Prop :=
  ∀ channel ∈ channels, ∀ pin e pin' e', g.Wired channel pin e → g.Wired channel pin' e' →
    e.substitute σ = e'.substitute σ

/-- Types for the parameters under which some pins of a channel have the same type. -/
def AgreeAt (g : Graph) (channel : String) (pins : List PinRef) (σ : TypeParam → TypeExpr) : Prop :=
  ∀ pin ∈ pins, ∀ pin' ∈ pins, ∀ e e', g.Wired channel pin e → g.Wired channel pin' e' →
    e.substitute σ = e'.substitute σ

/-- The constraints of the wiring fail first at a channel, in the order of the channels, and there
at a pin, in the order in which a cache lists its pins: by node, then by pin. -/
structure FirstConflict (g : Graph) (before : List String) (channel : String)
    (earlier : List PinRef) (pin : PinRef) : Prop where
  /-- The channel comes right behind the ones before. -/
  channels : before ++ [channel] <+: g.channels.keys
  /-- The pin comes right behind the earlier pins of the channel. -/
  pins : earlier ++ [pin] <+: g.cachedPins channel
  /-- The constraints of the channels before can be solved. -/
  solvable : ∃ σ, g.SolutionOn before σ
  /-- Together with those of the channel they cannot. -/
  unsolvable : ¬∃ σ, g.SolutionOn (before ++ [channel]) σ
  /-- The earlier pins can have the same type. -/
  agree : ∃ σ, g.SolutionOn before σ ∧ g.AgreeAt channel earlier σ
  /-- Together with the pin they cannot. -/
  disagree : ¬∃ σ, g.SolutionOn before σ ∧ g.AgreeAt channel (earlier ++ [pin]) σ

theorem AgreeAt.of_solutionOn {pins : List PinRef} (h : g.SolutionOn [channel] σ) :
    g.AgreeAt channel pins σ :=
  fun pin _ pin' _ e e' ↦ h channel (List.mem_singleton.2 rfl) pin e pin' e'

theorem AgreeAt.mono {pins pins' : List PinRef} (h : g.AgreeAt channel pins σ)
    (hsub : pins' ⊆ pins) : g.AgreeAt channel pins' σ :=
  fun pin hpin pin' hpin' ↦ h pin (hsub hpin) pin' (hsub hpin')

theorem solutionOn_append_iff {channels channels' : List String} :
    g.SolutionOn (channels ++ channels') σ ↔ g.SolutionOn channels σ ∧ g.SolutionOn channels' σ :=
  List.forall_mem_append

theorem cachedPins_clearTypes (g : Graph) (channel : String) :
    g.clearTypes.cachedPins channel = g.cachedPins channel := by
  rw [cachedPins, cachedPins, get?_channels_clearTypes]
  cases g.channels.get? channel <;> rfl

/-- Only one pin can be the first one. -/
theorem FirstConflict.unique {before' : List String} {channel' : String} {earlier' : List PinRef}
    {pin' : PinRef} (h : g.FirstConflict before channel earlier pin)
    (h' : g.FirstConflict before' channel' earlier' pin') :
    before = before' ∧ channel = channel' ∧ earlier = earlier' ∧ pin = pin' := by
  rcases prefix_concat_cases h.channels h'.channels with hfirst | hfirst | ⟨rfl, rfl⟩
  · obtain ⟨σ, hσ⟩ := h'.solvable
    exact absurd ⟨σ, fun c hc ↦ hσ c (hfirst.subset hc)⟩ h.unsolvable
  · obtain ⟨σ, hσ⟩ := h.solvable
    exact absurd ⟨σ, fun c hc ↦ hσ c (hfirst.subset hc)⟩ h'.unsolvable
  rcases prefix_concat_cases h.pins h'.pins with hfirst | hfirst | ⟨rfl, rfl⟩
  · obtain ⟨σ, hσ, hagree⟩ := h'.agree
    exact absurd ⟨σ, hσ, hagree.mono hfirst.subset⟩ h.disagree
  · obtain ⟨σ, hσ, hagree⟩ := h.agree
    exact absurd ⟨σ, hσ, hagree.mono hfirst.subset⟩ h'.disagree
  · exact ⟨rfl, rfl, rfl, rfl⟩

/-- Inferred types are no part of what fails first. -/
theorem FirstConflict.of_clearTypes
    (h : g.clearTypes.FirstConflict before channel earlier pin) :
    g.FirstConflict before channel earlier pin := by
  have hsolution : ∀ channels σ, g.clearTypes.SolutionOn channels σ ↔ g.SolutionOn channels σ := by
    intro channels σ
    simp only [SolutionOn, wired_clearTypes_iff]
  have hagree : ∀ pins σ, g.clearTypes.AgreeAt channel pins σ ↔ g.AgreeAt channel pins σ := by
    intro pins σ
    simp only [AgreeAt, wired_clearTypes_iff]
  obtain ⟨hchannels, hpins, hsolvable, hunsolvable, hagrees, hdisagree⟩ := h
  simp only [hsolution, hagree] at hsolvable hunsolvable hagrees hdisagree
  rw [keys_channels_clearTypes] at hchannels
  rw [cachedPins_clearTypes] at hpins
  exact ⟨hchannels, hpins, hsolvable, hunsolvable, hagrees, hdisagree⟩

/-- With current caches, what the pins ask for that were seen is what the wiring asks for at the
channels before and at the earlier pins. -/
theorem CachesCurrent.seenSolution_iff (hcurrent : g.CachesCurrent)
    (hbefore : ∀ channel ∈ before, channel ∈ g.channels) (hchannel : channel ∈ g.channels)
    (hearlier : ∀ pin ∈ earlier, pin ∈ g.cachedPins channel) :
    (g.seenOnly (g.pinsOf before ++ earlier.map (Prod.mk channel))).CachedSolution σ ↔
      g.SolutionOn before σ ∧ g.AgreeAt channel earlier σ := by
  have hmem : ∀ c q, (c, q) ∈ g.pinsOf before ++ earlier.map (Prod.mk channel) ↔
      (c ∈ before ∧ q ∈ g.cachedPins c) ∨ c = channel ∧ q ∈ earlier := by
    intro c q
    rw [List.mem_append, mem_pinsOf]
    simp [eq_comm, and_comm]
  have hwired : ∀ {c q e}, c ∈ g.channels → g.Wired c q e →
      q ∈ g.cachedPins c ∧ (Pass.start g).pinType? q = some e :=
    fun hc hq ↦ (hcurrent.pinType?_start hc).2 hq
  constructor
  · intro h
    constructor
    · intro c hc q e q' e' hq hq'
      obtain ⟨hcached, hstart⟩ := hwired (hbefore c hc) hq
      obtain ⟨hcached', hstart'⟩ := hwired (hbefore c hc) hq'
      refine h c q ?_ q' ?_ e e' (by simpa using hstart) (by simpa using hstart')
      · exact mem_cachedPins_seenOnly.2 ⟨hcached, (hmem c q).2 (.inl ⟨hc, hcached⟩)⟩
      · exact mem_cachedPins_seenOnly.2 ⟨hcached', (hmem c q').2 (.inl ⟨hc, hcached'⟩)⟩
    · intro q hmemq q' hmemq' e e' hq hq'
      obtain ⟨-, hstart⟩ := hwired hchannel hq
      obtain ⟨-, hstart'⟩ := hwired hchannel hq'
      refine h channel q ?_ q' ?_ e e' (by simpa using hstart) (by simpa using hstart')
      · exact mem_cachedPins_seenOnly.2 ⟨hearlier q hmemq, (hmem _ q).2 (.inr ⟨rfl, hmemq⟩)⟩
      · exact mem_cachedPins_seenOnly.2 ⟨hearlier q' hmemq', (hmem _ q').2 (.inr ⟨rfl, hmemq'⟩)⟩
  · rintro ⟨hsolution, hagree⟩ c q hq q' hq' e e' he he'
    rw [Pass.start_seenOnly] at he he'
    obtain ⟨hcached, hseen⟩ := mem_cachedPins_seenOnly.1 hq
    obtain ⟨hcached', hseen'⟩ := mem_cachedPins_seenOnly.1 hq'
    have hc := mem_channels_of_mem_cachedPins hcached
    have hwire := (hcurrent.pinType?_start hc).1 ⟨hcached, he⟩
    have hwire' := (hcurrent.pinType?_start hc).1 ⟨hcached', he'⟩
    -- pins of one channel were both seen on a visit before, or both on the one that is going on
    rcases (hmem c q).1 hseen with ⟨hc, -⟩ | ⟨rfl, hearly⟩
    · exact hsolution c hc q e q' e' hwire hwire'
    rcases (hmem c q').1 hseen' with ⟨hc, -⟩ | ⟨-, hearly'⟩
    · exact hsolution c hc q e q' e' hwire hwire'
    · exact hagree q hearly q' hearly' e e' hwire hwire'

end Graph

namespace Pass

variable {g : Graph} {p : Pass} {channel channel' : String} {pin : PinRef}
  {before after done queue : List String} {earlier later : List PinRef}
  {conflict : Conflict} {message : String}

/-- Where nothing makes the types agree after one more pin was seen, the constraints fail first at
this pin. -/
theorem Swept.firstConflict (hcurrent : g.CachesCurrent)
    (hkeys : g.channels.keys = before ++ channel :: after)
    (hpins : g.cachedPins channel = earlier ++ pin :: later)
    (h : Swept g (g.pinsOf before ++ earlier.map (Prod.mk channel)) p)
    (hnone : ∀ σ, ¬(g.seenOnly (g.pinsOf before ++
      (earlier ++ [pin]).map (Prod.mk channel))).CachedSolution σ) :
    g.FirstConflict before channel earlier pin := by
  have hbefore : ∀ c ∈ before, c ∈ g.channels := by
    intro c hc
    rw [OrderedMap.mem_iff, hkeys]
    exact List.mem_append_left _ hc
  have hchannel : channel ∈ g.channels := by
    rw [OrderedMap.mem_iff, hkeys]
    exact List.mem_append_right _ List.mem_cons_self
  have hcached : ∀ q ∈ earlier ++ [pin], q ∈ g.cachedPins channel := by
    intro q hq
    rw [hpins, List.append_cons]
    exact List.mem_append_left _ hq
  -- what was seen before the pin is solved, as the invariant of the sweep says
  have hsolved := (hcurrent.seenSolution_iff hbefore hchannel fun q hq ↦
    hcached q (List.mem_append_left _ hq)).1 h.cachedSolution
  have hdisagree : ¬∃ σ, g.SolutionOn before σ ∧ g.AgreeAt channel (earlier ++ [pin]) σ := by
    rintro ⟨σ, hσ⟩
    exact hnone σ ((hcurrent.seenSolution_iff hbefore hchannel hcached).2 hσ)
  refine ⟨⟨after, ?_⟩, ⟨later, ?_⟩, ⟨_, hsolved.1⟩, ?_, ⟨_, hsolved⟩, hdisagree⟩
  · rw [hkeys, List.append_assoc]
    rfl
  · rw [hpins, List.append_assoc]
    rfl
  · -- a solution for all pins of the channel is one for the first of them
    rintro ⟨σ, hσ⟩
    obtain ⟨hσ, hlast⟩ := Graph.solutionOn_append_iff.1 hσ
    exact hdisagree ⟨σ, hσ, .of_solutionOn hlast⟩

/-- A visit that is stopped by incompatible types names what fails first. -/
theorem Visited.firstConflict (hcurrent : g.CachesCurrent) (h : Visited g done p)
    (hqueue : p.queue = channel' :: queue)
    (hrun : visit g { p with queue := queue } channel' =
      .error (.incompatible channel pin conflict message)) :
    ∃ before earlier, g.FirstConflict before channel earlier pin := by
  -- a visit in a complete state cannot be stopped, so this one is part of the first sweep
  have hincomplete : ¬Complete g p := by
    intro hcomplete
    obtain ⟨p', hvisit, -⟩ := visit_of_settled (hcomplete.toSound.pop hqueue)
      (hcomplete.settled channel')
    cases hrun.symm.trans hvisit
  obtain ⟨rest, again, hkeys, hrest, hswept⟩ | ⟨-, hcomplete⟩ := h.cases
  · cases rest with
    | nil =>
      rw [List.append_nil] at hkeys
      rw [← hkeys] at hswept
      exact absurd hswept.complete hincomplete
    | cons first rest =>
      obtain ⟨rfl, -⟩ : channel' = first ∧ queue = rest ++ again :=
        List.cons.inj (hqueue.symm.trans hrest)
      have hpopped : Swept g (g.pinsOf done) { p with queue := queue } :=
        ⟨hswept.sound.pop hqueue, hswept.agreed⟩
      obtain ⟨p', hvisit, -⟩ | ⟨earlier, q, later, p', f, hpins, hseen, hstop, hvisit, hf⟩ :=
        hpopped.visit_cases channel'
      · cases hrun.symm.trans hvisit
      · obtain rfl : InferenceFault.incompatible channel pin conflict message = f :=
          Except.error.inj (hrun.symm.trans hvisit)
        obtain ⟨rfl, rfl⟩ := visitPin_incompatible hstop
        cases hf with
        | incompatible _ hnone =>
          exact ⟨done, earlier, hseen.firstConflict hcurrent hkeys hpins hnone⟩
  · exact absurd hcomplete hincomplete

end Pass

namespace Graph

variable {g : Graph} {default : TypeExpr}

/-- When an inference stops because types are incompatible, a visit has stopped it. -/
theorem exists_visit_of_infer_eq_error {channel : String} {pin : PinRef} {conflict : Conflict}
    {message : String} {g' : Graph}
    (h : g.infer default = .error ⟨.incompatible channel pin conflict message, g'⟩) :
    ∃ done p channel' queue, Pass.Visited g.clearTypes done p ∧ p.queue = channel' :: queue ∧
      Pass.visit g.clearTypes { p with queue := queue } channel' =
        .error (.incompatible channel pin conflict message) := by
  have hreaches := Pass.run_start_reaches g.clearTypes
  unfold infer at h
  dsimp only at h
  cases hrun : Pass.run g.clearTypes (Pass.start g.clearTypes).visitBound
      (Pass.start g.clearTypes) with
  | error f =>
    rw [hrun] at h
    cases h
    exact Pass.Visited.first.exists_of_run_eq_error _ hrun
  | ok p =>
    -- writing the results fails for other reasons only
    rw [hrun] at h hreaches
    cases hreaches with
    | reached hsolved =>
      obtain ⟨fault, hfault⟩ := Pass.exists_stopped_of_commit hsolved.toSound h
      cases hfault

/-- If an inference with current caches stops because types are incompatible, it names the first
channel with which the constraints cannot be solved any more, and of this channel the first pin with
which they cannot. Once every channel was visited, a further visit comes to its end and adds no
binding. -/
theorem infer_blame (hcurrent : g.CachesCurrent) :
    (∀ default channel pin conflict message g',
      g.infer default = .error ⟨.incompatible channel pin conflict message, g'⟩ →
        ∃ before earlier, g.FirstConflict before channel earlier pin) ∧
    ∀ done p channel queue, Pass.Visited g.clearTypes done p →
      (∀ channel ∈ g.channels, channel ∈ done) → p.queue = channel :: queue →
        ∃ p', Pass.visit g.clearTypes { p with queue := queue } channel = .ok p' ∧
          p'.bindings = p.bindings := by
  constructor
  · intro default channel pin conflict message g' h
    obtain ⟨done, p, channel', queue, hvisited, hqueue, hrun⟩ :=
      exists_visit_of_infer_eq_error h
    obtain ⟨before, earlier, hfirst⟩ := hvisited.firstConflict hcurrent.clearTypes hqueue hrun
    exact ⟨before, earlier, hfirst.of_clearTypes⟩
  · intro done p channel queue hvisited hall hqueue
    have hcomplete := hvisited.complete fun c hc ↦ hall c (mem_channels_clearTypes.1 hc)
    exact Pass.visit_of_settled (hcomplete.toSound.pop hqueue) (hcomplete.settled channel)

/-- A number that is copied to a channel where a text is expected, and to a reader behind that. -/
def overbound : Graph where
  nodes := .ofList [
    ("source", {
      part := .code { pins := .ofList [
        ("output", ⟨⟨"int", .name "int", TypeExpr.ofText_int⟩, .output⟩)] }
      connections := .ofList [("output", .string "feed")] }),
    ("copier", {
      part := .gather ⟨1, Nat.one_pos⟩
      connections := .ofList [("input0", .string "feed"), ("output", .string "result")] }),
    ("printer", {
      part := .code { pins := .ofList [
        ("input", ⟨⟨"string", .name "string", TypeExpr.ofText_string⟩, .input⟩)] }
      connections := .ofList [("input", .string "result")] }),
    ("reader", {
      part := .transform [] ""
      connections := .ofList [("input", .string "result"), ("output", noConnection)] })]
  channels := .ofList [
    ("feed", { pins := [⟨"copier", "input0"⟩, ⟨"source", "output"⟩].foldl PinSet.insert ∅ }),
    ("result", {
      pins := [⟨"copier", "output"⟩, ⟨"printer", "input"⟩, ⟨"reader", "input"⟩].foldl
        PinSet.insert ∅ })]

/-- The pin that expects the text is blamed, not the one behind it; and where two unslicers in a row
are inferred, both channels are visited again without any effect. -/
theorem infer_blame_overbound :
    overbound.CachesCurrent ∧ (∃ conflict message before earlier,
      overbound.infer (.name "int") = .error ⟨.incompatible "result" ⟨"printer", "input"⟩ conflict
        message, overbound.clearTypes⟩ ∧
      overbound.FirstConflict before "result" earlier ⟨"printer", "input"⟩) ∧
    unslicedTwice.CachesCurrent ∧ ∃ p p' queue,
      Pass.Visited unslicedTwice.clearTypes ["inner", "outer"] p ∧
        p.queue = "inner" :: queue ∧
        Pass.visit unslicedTwice.clearTypes { p with queue := queue } "inner" = .ok p' ∧
        p'.bindings = p.bindings := by
  have hcurrent : overbound.CachesCurrent := by decide +kernel
  obtain ⟨hblame, -⟩ := infer_blame hcurrent
  obtain ⟨-, hlater⟩ := infer_blame cachesCurrent_unslicedTwice
  refine ⟨hcurrent, ?_, cachesCurrent_unslicedTwice, ?_⟩
  · -- the run is evaluated for the blamed pin, which the theorem says fails first
    have hcause : (overbound.infer (.name "int")).mapError Interrupted.cause =
        .error (.incompatible "result" ⟨"printer", "input"⟩ ⟨.name "int", .name "string", .names⟩
          "cannot unify int with string: different named types") := by
      cbv
    have hreached : stateAfter (overbound.infer (.name "int")) = overbound.clearTypes := by
      cbv
    cases hrun : overbound.infer (.name "int") with
    | ok g' =>
      rw [hrun] at hcause
      cases hcause
    | error i =>
      obtain ⟨cause, reached⟩ := i
      rw [hrun] at hcause hreached
      cases hcause
      cases hreached
      obtain ⟨before, earlier, hfirst⟩ := hblame _ _ _ _ _ _ hrun
      exact ⟨_, _, before, earlier, rfl, hfirst⟩
  · -- after a visit to each channel the first one is in the queue again
    have hqueues : ((Pass.visit unslicedTwice.clearTypes
          { Pass.start unslicedTwice.clearTypes with queue := ["outer"] } "inner").toOption.bind
        fun p ↦ (Pass.visit unslicedTwice.clearTypes { p with queue := ["inner"] }
          "outer").toOption.map fun p' ↦ (p.queue, p'.queue)) =
        some (["outer", "inner"], ["inner", "outer"]) := by
      cbv
    cases hfirst : Pass.visit unslicedTwice.clearTypes
        { Pass.start unslicedTwice.clearTypes with queue := ["outer"] } "inner" with
    | error f =>
      rw [hfirst] at hqueues
      cases hqueues
    | ok p =>
      cases hsecond : Pass.visit unslicedTwice.clearTypes { p with queue := ["inner"] } "outer" with
      | error f =>
        rw [hfirst] at hqueues
        dsimp only [Except.toOption, Option.bind_some] at hqueues
        rw [hsecond] at hqueues
        cases hqueues
      | ok p' =>
        rw [hfirst] at hqueues
        dsimp only [Except.toOption, Option.bind_some] at hqueues
        rw [hsecond] at hqueues
        obtain ⟨hqueue, hqueue'⟩ := Prod.mk.inj (Option.some.inj hqueues)
        have hvisited : Pass.Visited unslicedTwice.clearTypes ["inner", "outer"] p' :=
          .next (.next .first rfl hfirst) hqueue hsecond
        obtain ⟨p'', hvisit, hbindings⟩ :=
          hlater _ p' "inner" ["outer"] hvisited (by decide +kernel) hqueue'
        exact ⟨p', p'', ["outer"], hvisited, hqueue', hvisit, hbindings⟩

end Graph

end ChannelGraph
