import ChannelGraph.Proofs.Inference.Visits

/-!
# The first visit to every channel

The queue starts with all channels in their order, and whatever a visit puts into it goes behind the
others. So an inference visits every channel once, in order, before it visits any channel again
(`Visited.cases`).

During this sweep the bindings know exactly the pins that were seen (`Swept`): they make the types
of these pins agree, and they are forced by them alone. That is the invariant of an inference
(`Sound`), for the graph that caches nothing but the pins seen so far (`Graph.seenOnly`).

After the sweep the types of all channels agree with those of their pins, and a visit finds nothing
to bind any more (`visit_of_settled`).
-/

namespace ChannelGraph

/-- The members that pass a test. -/
def PinSet.only (s : PinSet) (keep : PinRef → Bool) : PinSet :=
  ⟨s.toList.filter keep, s.sorted.filter _⟩

namespace Graph

variable {g : Graph} {seen : List (String × PinRef)} {channel : String} {pin : PinRef}

/-- A graph of which only those cached pins are left that were seen at their channel. -/
def seenOnly (g : Graph) (seen : List (String × PinRef)) : Graph :=
  { g with
    channels := g.channels.map fun channel c ↦
      { c with pins := c.pins.only fun pin ↦ (channel, pin) ∈ seen } }

/-- Among the pins seen, a channel caches those that it caches in the graph. -/
theorem mem_cachedPins_seenOnly : pin ∈ (g.seenOnly seen).cachedPins channel ↔
    pin ∈ g.cachedPins channel ∧ (channel, pin) ∈ seen := by
  have hget : (g.seenOnly seen).channels.get? channel = (g.channels.get? channel).map fun c ↦
      { c with pins := c.pins.only fun pin ↦ (channel, pin) ∈ seen } :=
    OrderedMap.get?_map _ _ _
  unfold cachedPins
  rw [hget]
  cases g.channels.get? channel with
  | none => simp
  | some c => simp [PinSet.only]

/-- The pins of some channels, in the order in which the channels are visited. -/
def pinsOf (g : Graph) (channels : List String) : List (String × PinRef) :=
  channels.flatMap fun channel ↦ (g.cachedPins channel).map (Prod.mk channel)

/-- The pins of some channels are the cached ones, each with its channel. -/
theorem mem_pinsOf {channels : List String} :
    (channel, pin) ∈ g.pinsOf channels ↔ channel ∈ channels ∧ pin ∈ g.cachedPins channel := by
  simp [pinsOf]

theorem pinsOf_append_singleton (channels : List String) (channel : String) :
    g.pinsOf (channels ++ [channel]) =
      g.pinsOf channels ++ (g.cachedPins channel).map (Prod.mk channel) := by
  simp [pinsOf]

end Graph

namespace Pass

variable {g g' : Graph} {p p' : Pass} {channel node : String} {pin : PinRef}
  {seen seen' : List (String × PinRef)} {done before : List String}

/-! ### Graphs that cache fewer pins -/

/-- What is cached is no part of the state in which an inference starts. -/
@[simp]
theorem start_seenOnly (g : Graph) (seen : List (String × PinRef)) :
    start (g.seenOnly seen) = start g := by
  have hmem : ∀ channel, channel ∈ (g.seenOnly seen).channels ↔ channel ∈ g.channels :=
    fun _ ↦ OrderedMap.mem_map
  have hdeclared : declaredTypes (g.seenOnly seen).channels = declaredTypes g.channels := by
    funext name n
    simp only [declaredTypes, hmem]
  have hnone : ((g.seenOnly seen).channels.map fun _ _ ↦ (none : Option TypeExpr)) =
      g.channels.map fun _ _ ↦ none := by
    rw [Graph.seenOnly, OrderedMap.map_map]
  have hkeys : (g.seenOnly seen).channels.keys = g.channels.keys := OrderedMap.keys_map _ _
  unfold start
  rw [hdeclared, hnone, hkeys]
  rfl

theorem Known.congr {e : TypeExpr} (hstart : start g' = start g) (h : Known g e) : Known g' e where
  isWritable := h.isWritable
  params := by
    rw [hstart]
    exact h.params

/-- The invariant stays true where more pins are cached. -/
theorem Sound.mono_cached (h : Sound g p) (hstart : start g' = start g)
    (hcached : ∀ channel, ∀ pin ∈ g.cachedPins channel, pin ∈ g'.cachedPins channel) :
    Sound g' p := by
  -- with more pins cached fewer substitutions are solutions, so what was forced still is
  have hsolution : ∀ σ, g'.CachedSolution σ → g.CachedSolution σ := by
    intro σ hσ channel pin hpin pin' hpin' e e' he he'
    rw [← hstart] at he he'
    exact hσ channel pin (hcached channel pin hpin) pin' (hcached channel pin' hpin') e e' he he'
  have hkeys : g'.channels.keys = g.channels.keys := congrArg Pass.queue hstart
  refine ⟨h.acyclic, ?_, fun σ hσ ↦ h.forced σ (hsolution σ hσ), ?_, ?_, ?_, ?_, ?_⟩
  · intro q e hq
    obtain ⟨hparam, hknown⟩ := h.bound q e hq
    rw [hstart]
    exact ⟨hparam, hknown.congr hstart⟩
  · rw [hstart]
    exact h.pinKeys
  · intro pin e he
    rw [hstart] at he
    obtain ⟨t, ht, hknown, hentails⟩ := h.pinType pin e he
    exact ⟨t, ht, hknown.congr hstart, hentails⟩
  · rw [hkeys]
    exact h.channelKeys
  · intro channel t ht
    obtain ⟨hknown, pin, hpin, e, he, hentails⟩ := h.channelType channel t ht
    rw [hstart]
    exact ⟨hknown.congr hstart, pin, hcached channel pin hpin, e, he, hentails⟩
  · intro channel hmem
    rw [OrderedMap.mem_iff, hkeys]
    exact h.queue channel hmem

/-- The invariant stays true where more pins are seen. -/
theorem Sound.mono_seen (h : Sound (g.seenOnly seen) p) (hseen : ∀ x ∈ seen, x ∈ seen') :
    Sound (g.seenOnly seen') p := by
  refine h.mono_cached (by simp) fun channel pin hpin ↦ ?_
  obtain ⟨hcached, hmem⟩ := Graph.mem_cachedPins_seenOnly.1 hpin
  exact Graph.mem_cachedPins_seenOnly.2 ⟨hcached, hseen _ hmem⟩

theorem Sound.of_seenOnly (h : Sound (g.seenOnly seen) p) : Sound g p :=
  h.mono_cached (by simp) fun _ _ hpin ↦ (Graph.mem_cachedPins_seenOnly.1 hpin).1

/-- Whether types agree does not depend on what else is cached. -/
theorem agreed_seenOnly_iff : Agreed (g.seenOnly seen) p channel pin ↔ Agreed g p channel pin := by
  rw [Agreed, Agreed, start_seenOnly]

/-- The visits read the caches only to know which pins to visit. -/
theorem visitPin_seenOnly (g : Graph) (seen : List (String × PinRef)) (channel : String) (p : Pass)
    (pin : PinRef) : visitPin (g.seenOnly seen) channel p pin = visitPin g channel p pin :=
  rfl

/-! ### What a visit does not change -/

theorem queue_prefix_push (p : Pass) (channel : String) : p.queue <+: (p.push channel).queue := by
  unfold push
  split
  · exact List.prefix_refl _
  · exact List.prefix_append _ _

/-- Bringing the pins of a node up to the bindings adds no bindings, and what is put into the queue
goes to its end. -/
theorem refineNode_keeps (h : refineNode g p node = .ok p') :
    p'.bindings = p.bindings ∧ p.queue <+: p'.queue := by
  refine rel_of_foldlM_eq_ok (R := fun p p' ↦ p'.bindings = p.bindings ∧ p.queue <+: p'.queue)
    (fun p ↦ ⟨rfl, List.prefix_refl _⟩) ?_ ?_ h
  · rintro p p' p'' ⟨hbindings, hqueue⟩ ⟨hbindings', hqueue'⟩
    exact ⟨hbindings'.trans hbindings, hqueue.trans hqueue'⟩
  · intro p entry p' hrun
    unfold refinePin at hrun
    split at hrun
    · cases hrun
    · cases hrun
      exact ⟨rfl, List.prefix_refl _⟩
    · dsimp only at hrun
      split at hrun
      · cases hrun
        exact ⟨rfl, List.prefix_refl _⟩
      · cases hrun
        exact ⟨bindings_push _ _, queue_prefix_push (setPinType p ⟨node, entry.1⟩ _) _⟩

/-- A visit puts channels to the end of the queue only. -/
theorem queue_prefix_visitPin (h : visitPin g channel p pin = .ok p') : p.queue <+: p'.queue := by
  unfold visitPin at h
  split at h
  · cases h
  · split at h
    · cases h
      exact queue_prefix_push (setChannelType p channel _) channel
    · split at h
      · cases h
      · dsimp only at h
        split at h
        · cases h
        · exact (refineNode_keeps h).2

/-- A visit only adds to the end of the queue. -/
theorem queue_prefix_visit (h : visit g p channel = .ok p') : p.queue <+: p'.queue :=
  rel_of_foldlM_eq_ok (R := fun p p' : Pass ↦ p.queue <+: p'.queue) (fun _ ↦ List.prefix_refl _)
    List.IsPrefix.trans queue_prefix_visitPin h

/-- A visit to a pin that is blamed on the types blames this pin and its channel. -/
theorem visitPin_incompatible {channel' : String} {pin' : PinRef} {conflict : Conflict}
    {message : String}
    (h : visitPin g channel p pin = .error (.incompatible channel' pin' conflict message)) :
    channel' = channel ∧ pin' = pin := by
  unfold visitPin at h
  split at h
  · cases h
  · split at h
    · cases h
    · split at h
      · rename_i i _
        obtain ⟨cause, reached⟩ := i
        cases cause <;> cases h
        exact ⟨rfl, rfl⟩
      · dsimp only at h
        split at h
        · cases h
        · obtain ⟨p', entry, hrun⟩ := exists_of_foldlM_eq_error h
          unfold refinePin at hrun
          split at hrun
          · cases hrun
          · cases hrun
          · dsimp only at hrun
            split at hrun <;> cases hrun

/-! ### The sweep -/

/-- What holds after some pins were seen for the first time: their types agree, and nothing is bound
that they do not force. -/
structure Swept (g : Graph) (seen : List (String × PinRef)) (p : Pass) : Prop where
  /-- The invariant holds already for the graph that caches the pins seen so far. -/
  sound : Sound (g.seenOnly seen) p
  /-- The type of a channel agrees with those of its pins seen so far. -/
  agreed : ∀ x ∈ seen, Agreed g p x.1 x.2

theorem swept_start (g : Graph) : Swept g [] (start g) where
  sound := by
    rw [← start_seenOnly g []]
    exact sound_start _
  agreed := fun _ h ↦ nomatch h

namespace Swept

theorem settled (h : Swept g seen p) (channel : String) :
    Settled (g.seenOnly seen) p channel := by
  intro pin hpin
  exact agreed_seenOnly_iff.2 (h.agreed _ (Graph.mem_cachedPins_seenOnly.1 hpin).2)

/-- The values of the bindings make the types of the pins agree that were seen. -/
theorem cachedSolution (h : Swept g seen p) :
    (g.seenOnly seen).CachedSolution p.bindings.value :=
  cachedSolution_of_settled h.sound.acyclic h.settled

/-- Seeing one more pin adds what it forces, or shows that nothing makes the types agree. -/
theorem visitPin_reaches (h : Swept g seen p) (hpin : pin ∈ g.cachedPins channel) :
    Reaches (g.seenOnly (seen ++ [(channel, pin)])) (Swept g (seen ++ [(channel, pin)]))
      (visitPin g channel p pin) := by
  have hmore : Sound (g.seenOnly (seen ++ [(channel, pin)])) p :=
    h.sound.mono_seen fun _ ↦ List.mem_append_left _
  have hcached : pin ∈ (g.seenOnly (seen ++ [(channel, pin)])).cachedPins channel :=
    Graph.mem_cachedPins_seenOnly.2 ⟨hpin, List.mem_append_right _ (List.mem_singleton.2 rfl)⟩
  rw [← visitPin_seenOnly g (seen ++ [(channel, pin)])]
  refine (Pass.visitPin_reaches hmore hcached).mono fun p' ⟨hsound, hadvances, hagreed⟩ ↦ ?_
  refine ⟨hsound, fun x hx ↦ ?_⟩
  have hall : Agreed (g.seenOnly (seen ++ [(channel, pin)])) p' x.1 x.2 ↔ Agreed g p' x.1 x.2 :=
    agreed_seenOnly_iff
  rw [← hall]
  rcases List.mem_append.1 hx with hx | hx
  · exact (agreed_seenOnly_iff.2 (h.agreed x hx)).mono hadvances
  · rwa [List.mem_singleton.1 hx]

/-- A visit to a channel sees all its pins, or stops at the first one that cannot agree with those
seen before. -/
theorem visit_cases (h : Swept g (g.pinsOf before) p) (channel : String) :
    (∃ p', visit g p channel = .ok p' ∧ Swept g (g.pinsOf (before ++ [channel])) p') ∨
      ∃ earlier pin later p' f, g.cachedPins channel = earlier ++ pin :: later ∧
        Swept g (g.pinsOf before ++ earlier.map (Prod.mk channel)) p' ∧
        visitPin g channel p' pin = .error f ∧ visit g p channel = .error f ∧
        Justified (g.seenOnly (g.pinsOf before ++ (earlier ++ [pin]).map (Prod.mk channel))) f := by
  have hassoc : ∀ earlier pin, g.pinsOf before ++ (earlier ++ [pin]).map (Prod.mk channel) =
      g.pinsOf before ++ earlier.map (Prod.mk channel) ++ [(channel, pin)] := by
    intro earlier pin
    rw [List.map_append, List.append_assoc]
    rfl
  have hmem : ∀ {earlier pin later}, g.cachedPins channel = earlier ++ pin :: later →
      pin ∈ g.cachedPins channel := by
    intro earlier pin later hsplit
    rw [hsplit]
    simp
  have hstart : Swept g (g.pinsOf before ++ ([] : List PinRef).map (Prod.mk channel)) p := by
    simpa using h
  -- one pin more is seen at each step, and a stop is justified by those seen so far
  have hstep : ∀ earlier pin later p₁ p₂, g.cachedPins channel = earlier ++ pin :: later →
      Swept g (g.pinsOf before ++ earlier.map (Prod.mk channel)) p₁ →
      visitPin g channel p₁ pin = .ok p₂ →
      Swept g (g.pinsOf before ++ (earlier ++ [pin]).map (Prod.mk channel)) p₂ := by
    intro earlier pin later p₁ p₂ hsplit hswept hrun
    have hreaches := hswept.visitPin_reaches (hmem hsplit)
    rw [hrun, ← hassoc] at hreaches
    cases hreaches with
    | reached h' => exact h'
  rcases foldlM_cases hstart hstep with
    ⟨p', hrun, hswept⟩ | ⟨earlier, pin, later, p', f, hsplit, hswept, hstop, hrun⟩
  · rw [← Graph.pinsOf_append_singleton] at hswept
    exact .inl ⟨p', hrun, hswept⟩
  · have hreaches := hswept.visitPin_reaches (hmem hsplit)
    rw [hstop, ← hassoc] at hreaches
    cases hreaches with
    | stopped hf => exact .inr ⟨earlier, pin, later, p', f, hsplit, hswept, hstop, hrun, hf⟩

end Swept

/-! ### Visits after the sweep -/

/-- A pin that agrees with its channel is visited without adding a binding. -/
theorem visitPin_of_agreed (h : Sound g p) (hpin : pin ∈ g.cachedPins channel)
    (hagreed : Agreed g p channel pin) : ∃ p', visitPin g channel p pin = .ok p' ∧
      Sound g p' ∧ Advances g p p' ∧ p'.bindings = p.bindings := by
  obtain ⟨l, e, hl, he, hentails⟩ := hagreed
  obtain ⟨r, hr, -, hstart⟩ := h.pinType pin e he
  have hunify : p.bindings.unify l r = .ok p.bindings :=
    h.acyclic.unify_eq_of_entails (hentails.trans hstart.symm)
  obtain ⟨p', hrefine, hsound, hadvances, -⟩ := exists_unified h hpin hl hr hunify
  obtain ⟨refined, href, hgetD⟩ := Bindings.exists_refine?_eq h.acyclic l
  refine ⟨p', ?_, hsound, hadvances, (refineNode_keeps hrefine).1⟩
  rw [visitPin, hr]
  dsimp only
  rw [Option.join_eq_some_iff.2 hl]
  dsimp only
  rw [hunify]
  dsimp only
  rw [href]
  dsimp only
  rw [hgetD, hrefine]

/-- A channel that is settled is visited without adding a binding. -/
theorem visit_of_settled (h : Sound g p) (hsettled : Settled g p channel) :
    ∃ p', visit g p channel = .ok p' ∧ p'.bindings = p.bindings := by
  have hloop : ∀ (pins : List PinRef) (p : Pass), Sound g p →
      (∀ pin ∈ pins, pin ∈ g.cachedPins channel ∧ Agreed g p channel pin) →
        ∃ p', pins.foldlM (visitPin g channel) p = .ok p' ∧ p'.bindings = p.bindings := by
    intro pins
    induction pins with
    | nil => exact fun p _ _ ↦ ⟨p, rfl, rfl⟩
    | cons pin pins ih =>
      intro p h hpins
      obtain ⟨⟨hpin, hagreed⟩, hpins⟩ := List.forall_mem_cons.1 hpins
      obtain ⟨p', hrun, h', hadvances, hbindings⟩ := visitPin_of_agreed h hpin hagreed
      obtain ⟨p'', hruns, hbindings'⟩ := ih p' h' fun pin' hpin' ↦
        ⟨(hpins pin' hpin').1, (hpins pin' hpin').2.mono hadvances⟩
      refine ⟨p'', ?_, hbindings'.trans hbindings⟩
      rw [List.foldlM_cons, hrun]
      exact hruns
  exact hloop _ p h fun pin hpin ↦ ⟨hpin, hsettled pin hpin⟩

/-! ### The states that an inference passes through -/

/-- The states in which an inference has made some visits, with the visited channels in order. -/
inductive Visited (g : Graph) : List String → Pass → Prop
  /-- At the start no channel was visited. -/
  | first : Visited g [] (start g)
  /-- The next visit goes to the first channel of the queue. -/
  | next {done queue : List String} {channel : String} {p p' : Pass} (h : Visited g done p)
      (hqueue : p.queue = channel :: queue)
      (hrun : visit g { p with queue := queue } channel = .ok p') : Visited g (done ++ [channel]) p'

/-- A run that stops is stopped by a visit. -/
theorem Visited.exists_of_run_eq_error {f : InferenceFault} (h : Visited g done p) (visits : Nat)
    (hrun : run g visits p = .error f) : ∃ done' p' channel queue, Visited g done' p' ∧
      p'.queue = channel :: queue ∧ visit g { p' with queue := queue } channel = .error f := by
  induction visits generalizing done p with
  | zero => cases hrun
  | succ visits ih =>
    unfold run at hrun
    split at hrun
    · cases hrun
    · rename_i channel queue hqueue
      cases hvisit : visit g { p with queue := queue } channel with
      | error f' =>
        rw [hvisit] at hrun
        cases hrun
        exact ⟨done, p, channel, queue, h, hqueue, hvisit⟩
      | ok p' =>
        rw [hvisit] at hrun
        exact ih (.next h hqueue hvisit) hrun

/-- What holds when every channel was visited. -/
structure Complete (g : Graph) (p : Pass) : Prop extends Sound g p where
  /-- Every channel is settled. -/
  settled : ∀ channel, Settled g p channel

/-- After a sweep over all channels the state of the visits is complete. -/
theorem Swept.complete (h : Swept g (g.pinsOf g.channels.keys) p) : Complete g p where
  toSound := h.sound.of_seenOnly
  settled := by
    intro channel pin hpin
    have hchannel := OrderedMap.mem_iff.1 (Graph.mem_channels_of_mem_cachedPins hpin)
    exact h.agreed (channel, pin) (Graph.mem_pinsOf.2 ⟨hchannel, hpin⟩)

/-- Taking a channel out of the queue changes nothing else. -/
theorem Sound.pop {queue : List String} (h : Sound g p) (hqueue : p.queue = channel :: queue) :
    Sound g { p with queue := queue } :=
  { h with queue := fun c hc ↦ h.queue c (hqueue ▸ List.mem_cons_of_mem _ hc) }

/-- As long as not every channel was visited, those that were are the first ones, each once, and the
others stand in front of the queue in their order. -/
theorem Visited.cases (h : Visited g done p) :
    (∃ rest again, g.channels.keys = done ++ rest ∧ p.queue = rest ++ again ∧
      Swept g (g.pinsOf done) p) ∨ (∀ channel ∈ g.channels, channel ∈ done) ∧ Complete g p := by
  induction h with
  | first => exact .inl ⟨g.channels.keys, [], rfl, (List.append_nil _).symm, swept_start g⟩
  | @next done queue channel p p' _ hqueue hrun ih =>
    have hlater : (∀ channel ∈ g.channels, channel ∈ done) → Complete g p →
        (∀ channel' ∈ g.channels, channel' ∈ done ++ [channel]) ∧ Complete g p' := by
      intro hall hcomplete
      have hreaches := visit_reaches (hcomplete.toSound.pop hqueue) channel
      rw [hrun] at hreaches
      cases hreaches with
      | reached hgoal =>
        obtain ⟨hsound, hadvances, -⟩ := hgoal
        refine ⟨fun channel' hmem ↦ List.mem_append_left _ (hall channel' hmem), hsound, ?_⟩
        intro channel' pin hpin
        have hagreed : Agreed g { p with queue := queue } channel' pin :=
          hcomplete.settled channel' pin hpin
        exact hagreed.mono hadvances
    rcases ih with ⟨rest, again, hkeys, hrest, hswept⟩ | ⟨hall, hcomplete⟩
    · cases rest with
      | nil =>
        rw [List.append_nil] at hkeys
        rw [← hkeys] at hswept
        refine .inr (hlater (fun channel' hmem ↦ ?_) hswept.complete)
        rwa [← hkeys, ← OrderedMap.mem_iff]
      | cons first rest =>
        -- the sweep goes on with the channel in front of the others
        obtain ⟨rfl, hqueue'⟩ : channel = first ∧ queue = rest ++ again :=
          List.cons.inj (hqueue.symm.trans hrest)
        have hpopped : Swept g (g.pinsOf done) { p with queue := queue } :=
          ⟨hswept.sound.pop hqueue, hswept.agreed⟩
        obtain ⟨p'', hvisit, hnext⟩ | ⟨-, -, -, -, f, -, -, -, hvisit, -⟩ :=
          hpopped.visit_cases channel
        · obtain rfl : p' = p'' := Except.ok.inj (hrun.symm.trans hvisit)
          obtain ⟨more, hmore⟩ := queue_prefix_visit hrun
          refine .inl ⟨rest, again ++ more, ?_, ?_, hnext⟩
          · rw [hkeys, List.append_assoc]
            rfl
          · rw [← hmore, ← List.append_assoc, ← hqueue']
        · cases hrun.symm.trans hvisit
    · exact .inr (hlater hall hcomplete)

/-- When every channel was visited their types agree with those of all their pins. -/
theorem Visited.complete (h : Visited g done p) (hall : ∀ channel ∈ g.channels, channel ∈ done) :
    Complete g p := by
  obtain ⟨rest, again, hkeys, -, hswept⟩ | ⟨-, hcomplete⟩ := h.cases
  · have hrest : rest = [] := by
      refine List.eq_nil_iff_forall_not_mem.2 fun channel hmem ↦ ?_
      have hnodup := g.channels.nodup_keys
      rw [hkeys] at hnodup
      have hchannel : channel ∈ g.channels := by
        rw [OrderedMap.mem_iff, hkeys]
        exact List.mem_append_right _ hmem
      exact List.disjoint_of_nodup_append hnodup (hall channel hchannel) hmem
    rw [hrest, List.append_nil] at hkeys
    rw [← hkeys] at hswept
    exact hswept.complete
  · exact hcomplete

end Pass

end ChannelGraph
