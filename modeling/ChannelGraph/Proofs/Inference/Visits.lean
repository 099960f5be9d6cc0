import ChannelGraph.Proofs.Inference.Work

/-!
# The visits of an inference

A visit to a channel makes its type agree with all of its cached pins (`visit_reaches`), or it stops
for a reason that does not depend on the visits before (`Pass.Justified`): a cached pin is not
connected, or nothing makes the types agree that the caches relate. What a visit has made agree
stays in agreement, whatever is visited later (`Agreed.mono`), because bindings are only added. So
when nothing is left to visit the types of all channels agree with those of their pins
(`run_reaches`), and the bound on the visits is large enough to get there
(`run_start_reaches`).
-/

namespace ChannelGraph

namespace Pass

variable {g : Graph} {p p' p'' : Pass} {channel node : String} {pin : PinRef}
  {entry : String × TypeExpr}

/-- A state is reached from another one without adding work: bindings are added, the types of
channels are kept up to the bindings, and what is to be visited still is. -/
structure Advances (g : Graph) (p p' : Pass) : Prop where
  /-- No binding is lost. -/
  bindings : p'.bindings.Extends p.bindings
  /-- A channel keeps its type, up to the bindings. -/
  channelType : ∀ channel t, p.channelTypes.get? channel = some (some t) →
    ∃ t', p'.channelTypes.get? channel = some (some t') ∧ p'.bindings.Entails t' t
  /-- A channel that is to be visited still is. -/
  queue : ∀ channel ∈ p.queue, channel ∈ p'.queue
  /-- There is no more work than before. -/
  work : p'.work g ≤ p.work g

namespace Advances

theorem of_eq (hbindings : p'.bindings = p.bindings) (htypes : p'.channelTypes = p.channelTypes)
    (hqueue : ∀ channel ∈ p.queue, channel ∈ p'.queue) (hwork : p'.work g ≤ p.work g) :
    Advances g p p' where
  bindings := by
    rw [hbindings]
    exact Bindings.Extends.refl _
  channelType := by
    intro channel t ht
    rw [htypes]
    exact ⟨t, ht, Bindings.Entails.refl _ _⟩
  queue := hqueue
  work := hwork

theorem refl (g : Graph) (p : Pass) : Advances g p p :=
  of_eq rfl rfl (fun _ h ↦ h) (Nat.le_refl _)

theorem trans (h : Advances g p p') (h' : Advances g p' p'') : Advances g p p'' where
  bindings := h'.bindings.trans h.bindings
  channelType := by
    intro channel t ht
    obtain ⟨t', ht', hentails⟩ := h.channelType channel t ht
    obtain ⟨t'', ht'', hentails'⟩ := h'.channelType channel t' ht'
    exact ⟨t'', ht'', hentails'.trans (hentails.mono h'.bindings)⟩
  queue := fun channel hchannel ↦ h'.queue channel (h.queue channel hchannel)
  work := Nat.le_trans h'.work h.work

end Advances

/-! ### Bringing pins up to the bindings -/

@[simp]
theorem bindings_push (p : Pass) (channel : String) : (p.push channel).bindings = p.bindings := by
  unfold push
  split <;> rfl

@[simp]
theorem channelTypes_push (p : Pass) (channel : String) :
    (p.push channel).channelTypes = p.channelTypes := by
  unfold push
  split <;> rfl

@[simp]
theorem pinType?_push (p : Pass) (channel : String) (pin : PinRef) :
    (p.push channel).pinType? pin = p.pinType? pin := by
  unfold push
  split <;> rfl

theorem mem_queue_push {channel' : String} (h : channel' ∈ p.queue) :
    channel' ∈ (p.push channel).queue := by
  unfold push
  split
  · exact h
  · exact List.mem_append_left _ h

/-- The channel that a typed pin is connected to is one of the graph. -/
theorem Sound.mem_channels (h : Sound g p) {t : TypeExpr} (hpin : p.pinType? pin = some t)
    (hchannel : ((g.nodes.get? pin.node).bind fun n ↦ n.connectedChannel pin.pin) = some channel) :
    channel ∈ g.channels := by
  obtain ⟨e, he⟩ := h.exists_start hpin
  obtain ⟨channel', hmem, n, declared, hn, -, hconnected, -⟩ := pinType?_start_iff.1 he
  rw [hn, Option.bind_some, hconnected] at hchannel
  rwa [← Option.some.inj hchannel]

/-- A pin is brought up to the bindings; other pins keep their types. -/
theorem exists_refinePin (h : Sound g p) (hentry : p.pinType? ⟨node, entry.1⟩ = some entry.2) :
    ∃ p', refinePin g node p entry = .ok p' ∧ Sound g p' ∧ Advances g p p' ∧
      ∀ pin, pin ≠ ⟨node, entry.1⟩ → p'.pinType? pin = p.pinType? pin := by
  unfold refinePin
  rw [Bindings.refine?_eq h.acyclic]
  by_cases hsame : entry.2.substitute p.bindings.value = entry.2
  · rw [if_pos hsame]
    exact ⟨p, rfl, h, Advances.refl g p, fun _ _ ↦ rfl⟩
  · rw [if_neg hsame]
    -- a pin that is brought up pays for the channel that may be pushed
    have hbehind : p.isBehind ⟨node, entry.1⟩ := by
      rw [Bindings.substitute_value_eq_iff h.acyclic] at hsame
      push Not at hsame
      exact (isBehind_iff hentry).2 hsame
    have hsound := h.setPinType hentry (h.known_substitute (h.known hentry))
      (Bindings.entails_substitute_value h.acyclic entry.2)
    have hunbound : ∀ q ∈ (entry.2.substitute p.bindings.value).params, q ∉ p.bindings :=
      fun _ hq ↦ Bindings.not_mem_of_mem_params_instance h.acyclic hq
    have hwork := work_setPinType h hentry hbehind hunbound
    have hother := pinType?_setPinType hentry (entry.2.substitute p.bindings.value)
    generalize entry.2.substitute p.bindings.value = t at hsound hunbound hwork hother ⊢
    dsimp only
    cases hchannel : (g.nodes.get? node).bind fun n ↦ n.connectedChannel entry.1 with
    | none =>
      refine ⟨_, rfl, hsound, .of_eq rfl rfl (fun _ hc ↦ hc) ?_, fun pin hne ↦ ?_⟩
      · omega
      · rw [hother, if_neg hne]
    | some channel =>
      have hpush := work_push_le g (p.setPinType ⟨node, entry.1⟩ t) channel
      refine ⟨_, rfl, hsound.push (h.mem_channels hentry hchannel), .of_eq ?_ ?_ ?_ ?_,
        fun pin hne ↦ ?_⟩
      · exact bindings_push _ _
      · exact channelTypes_push _ _
      · exact fun _ hc ↦ mem_queue_push hc
      · omega
      · rw [pinType?_push, hother, if_neg hne]

/-- The pins of a node are brought up to the bindings. -/
theorem exists_refineNode (h : Sound g p) (node : String) :
    ∃ p', refineNode g p node = .ok p' ∧ Sound g p' ∧ Advances g p p' := by
  -- the loop runs over the types as they are at first; a pin that is still to come has kept its own
  have hloop : ∀ (entries : List (String × TypeExpr)) (p : Pass), Sound g p →
      (entries.map Prod.fst).Nodup →
      (∀ entry ∈ entries, p.pinType? ⟨node, entry.1⟩ = some entry.2) →
        ∃ p', entries.foldlM (refinePin g node) p = .ok p' ∧ Sound g p' ∧ Advances g p p' := by
    intro entries
    induction entries with
    | nil => exact fun p h _ _ ↦ ⟨p, rfl, h, Advances.refl g p⟩
    | cons entry entries ih =>
      intro p h hkeys htypes
      rw [List.map_cons, List.nodup_cons] at hkeys
      obtain ⟨hentry, hentries⟩ := List.forall_mem_cons.1 htypes
      obtain ⟨p', hrun, h', hadvances, hother⟩ := exists_refinePin h hentry
      have hrest : ∀ entry' ∈ entries, p'.pinType? ⟨node, entry'.1⟩ = some entry'.2 := by
        intro entry' hmem
        rw [hother _ fun heq ↦ ?_, hentries entry' hmem]
        injection heq with _ heq
        exact hkeys.1 (heq ▸ List.mem_map.2 ⟨entry', hmem, rfl⟩)
      obtain ⟨p'', hruns, h'', hadvances'⟩ := ih p' h' hkeys.2 hrest
      refine ⟨p'', ?_, h'', hadvances.trans hadvances'⟩
      rw [List.foldlM_cons, hrun]
      exact hruns
  refine hloop _ p h (OrderedMap.nodup_keys _) fun entry hentry ↦ ?_
  cases htypes : p.pinTypes.get? node with
  | none => rw [htypes] at hentry; cases hentry
  | some types =>
    rw [htypes] at hentry
    exact Option.bind_eq_some_iff.2 ⟨types, htypes, OrderedMap.get?_eq_some_iff.2 hentry⟩

/-! ### Agreement -/

/-- The type of a channel agrees with the type that one of its pins started with. -/
def Agreed (g : Graph) (p : Pass) (channel : String) (pin : PinRef) : Prop :=
  ∃ t e, p.channelTypes.get? channel = some (some t) ∧ (start g).pinType? pin = some e ∧
    p.bindings.Entails t e

/-- The type of a channel agrees with those of all pins that it caches. -/
def Settled (g : Graph) (p : Pass) (channel : String) : Prop :=
  ∀ pin ∈ g.cachedPins channel, Agreed g p channel pin

/-- What agrees stays in agreement. -/
theorem Agreed.mono (h : Agreed g p channel pin) (hadvances : Advances g p p') :
    Agreed g p' channel pin := by
  obtain ⟨t, e, ht, he, hentails⟩ := h
  obtain ⟨t', ht', hentails'⟩ := hadvances.channelType channel t ht
  exact ⟨t', e, ht', he, hentails'.trans (hentails.mono hadvances.bindings)⟩

/-- A settled channel stays so while the visits go on. -/
theorem Settled.mono (h : Settled g p channel) (hadvances : Advances g p p') :
    Settled g p' channel :=
  fun pin hpin ↦ (h pin hpin).mono hadvances

/-- Why an inference may stop, whatever was visited before. -/
inductive Justified (g : Graph) : InferenceFault → Prop
  /-- A cached pin is not connected to a channel of the graph. -/
  | unwired {channel : String} {pin : PinRef} (hpin : pin ∈ g.cachedPins channel)
      (hnone : (start g).pinType? pin = none) : Justified g (.unwiredPin channel pin)
  /-- Nothing makes the types agree that the caches relate. -/
  | incompatible {channel : String} {pin : PinRef} (hpin : pin ∈ g.cachedPins channel)
      (hnone : ∀ σ, ¬g.CachedSolution σ) (conflict : Conflict) (message : String) :
      Justified g (.incompatible channel pin conflict message)

/-- A part of an inference ends in a state as wanted, or stops for a reason. -/
inductive Reaches (g : Graph) (goal : Pass → Prop) : Except InferenceFault Pass → Prop
  /-- It stops for a reason. -/
  | stopped {f : InferenceFault} (h : Justified g f) : Reaches g goal (.error f)
  /-- It ends in a state as wanted. -/
  | reached {p : Pass} (h : goal p) : Reaches g goal (.ok p)

theorem Reaches.mono {goal goal' : Pass → Prop} {out : Except InferenceFault Pass}
    (h : Reaches g goal out) (himp : ∀ p, goal p → goal' p) : Reaches g goal' out := by
  cases h with
  | stopped h => exact .stopped h
  | reached h => exact .reached (himp _ h)

/-- Where one part of an inference reaches a state, the next one goes on from there. -/
theorem Reaches.bind {goal goal' : Pass → Prop} {out : Except InferenceFault Pass}
    {next : Pass → Except InferenceFault Pass} (h : Reaches g goal out)
    (hnext : ∀ p, goal p → Reaches g goal' (next p)) : Reaches g goal' (out.bind next) := by
  cases h with
  | stopped h => exact .stopped h
  | reached h => exact hnext _ h

/-! ### Visits -/

section Visit

variable {l r e : TypeExpr} {m : Bindings}

/-- A channel without type gets that of a pin, and is to be visited again. -/
theorem sound_first (h : Sound g p) (hpin : pin ∈ g.cachedPins channel)
    (hr : p.pinType? pin = some r) (hnone : (p.channelTypes.get? channel).join = none) :
    Sound g ((p.setChannelType channel r).push channel) ∧
      Advances g p ((p.setChannelType channel r).push channel) ∧
        Agreed g ((p.setChannelType channel r).push channel) channel pin := by
  obtain ⟨e, he⟩ := h.exists_start hr
  have hentails := h.entails_start hr he
  have hmem := Graph.mem_channels_of_mem_cachedPins hpin
  refine ⟨(h.setChannelType (h.known hr) hpin he hentails).push hmem, ?_, ?_⟩
  · refine ⟨?_, fun channel' t ht ↦ ?_, fun _ hqueue ↦ mem_queue_push hqueue, ?_⟩
    · rw [bindings_push]
      exact Bindings.Extends.refl _
    · have hne : channel' ≠ channel := by
        rintro rfl
        rw [ht] at hnone
        cases hnone
      refine ⟨t, ?_, Bindings.Entails.refl _ _⟩
      rw [channelTypes_push]
      exact (OrderedMap.get?_insert_of_ne _ _ hne).trans ht
    · -- the type that the channel gets pays for another visit to it
      have hfirst := work_setChannelType hmem hnone r
      have hpush := work_push_le g (p.setChannelType channel r) channel
      omega
  · refine ⟨r, e, ?_, he, ?_⟩
    · rw [channelTypes_push]
      exact OrderedMap.get?_insert_self _ _ _
    · rw [bindings_push]
      exact hentails

/-- Whatever makes the types agree that the caches relate makes the types agree that a channel and a
cached pin have. -/
theorem Sound.agree (h : Sound g p) (hpin : pin ∈ g.cachedPins channel)
    (hl : p.channelTypes.get? channel = some (some l)) (hr : p.pinType? pin = some r)
    {σ : TypeParam → TypeExpr} (hσ : g.CachedSolution σ) : l.substitute σ = r.substitute σ := by
  obtain ⟨e, he⟩ := h.exists_start hr
  obtain ⟨-, pin', hpin', e', he', hentails⟩ := h.channelType channel l hl
  have hforced := h.forced σ hσ
  rw [hentails σ hforced, h.entails_start hr he σ hforced]
  exact hσ channel pin' hpin' pin hpin e' e he' he

/-- After a unification the types of the channel and of the pins of the node are brought up to the
bindings. -/
theorem exists_unified (h : Sound g p) (hpin : pin ∈ g.cachedPins channel)
    (hl : p.channelTypes.get? channel = some (some l)) (hr : p.pinType? pin = some r)
    (hunify : p.bindings.unify l r = .ok m) :
    ∃ p', refineNode g (setChannelType { p with bindings := m } channel (l.substitute m.value))
        pin.node = .ok p' ∧
      Sound g p' ∧ Advances g p p' ∧ Agreed g p' channel pin := by
  obtain ⟨e, he⟩ := h.exists_start hr
  obtain ⟨hknown, pin', hpin', e', he', hentails⟩ := h.channelType channel l hl
  have hextends : m.Extends p.bindings := (h.acyclic.mostGeneral hunify).extends_old
  have hunified := h.unify hknown (h.known hr) (fun _ ↦ h.agree hpin hl hr) hunify
  have hinstance : m.Entails (l.substitute m.value) l :=
    Bindings.entails_substitute_value hunified.acyclic l
  have hset := hunified.setChannelType (hunified.known_substitute hknown) hpin' he'
    (hinstance.trans (hentails.mono hextends))
  have hadvances : Advances g p
      (setChannelType { p with bindings := m } channel (l.substitute m.value)) := by
    refine ⟨hextends, fun channel' t ht ↦ ?_, fun _ hqueue ↦ hqueue, ?_⟩
    · by_cases heq : channel' = channel
      · rw [heq, hl] at ht
        cases ht
        rw [heq]
        exact ⟨_, OrderedMap.get?_insert_self _ _ _, hinstance⟩
      · refine ⟨t, ?_, Bindings.Entails.refl _ _⟩
        exact (OrderedMap.get?_insert_of_ne _ _ heq).trans ht
    · exact Nat.le_trans (work_setChannelType_le g _ _ _) (work_bindings_le h hextends)
  -- the channel shows the instance of its type, which the unification made equal to that of the pin
  have hagreed : Agreed g (setChannelType { p with bindings := m } channel (l.substitute m.value))
      channel pin := by
    refine ⟨_, e, OrderedMap.get?_insert_self _ _ _, he, hinstance.trans ?_⟩
    exact (h.acyclic.entails_of_unify hunify).trans ((h.entails_start hr he).mono hextends)
  obtain ⟨p', hrefine, hsound, hadvances'⟩ := exists_refineNode hset pin.node
  exact ⟨p', hrefine, hsound, hadvances.trans hadvances', hagreed.mono hadvances'⟩

/-- The types of a channel and of a pin that it caches are made to agree. -/
theorem visitPin_reaches (h : Sound g p) (hpin : pin ∈ g.cachedPins channel) :
    Reaches g (fun p' ↦ Sound g p' ∧ Advances g p p' ∧ Agreed g p' channel pin)
      (visitPin g channel p pin) := by
  unfold visitPin
  cases hr : p.pinType? pin with
  | none => exact .stopped (.unwired hpin (h.start_eq_none hr))
  | some r =>
    cases hjoin : (p.channelTypes.get? channel).join with
    | none => exact .reached (sound_first h hpin hr hjoin)
    | some l =>
      have hl : p.channelTypes.get? channel = some (some l) := Option.join_eq_some_iff.1 hjoin
      dsimp only
      cases hunify : p.bindings.unify l r with
      | error i =>
        obtain ⟨cause, reached⟩ := i
        obtain ⟨⟨conflict, message, rfl⟩, hnone⟩ := h.acyclic.unify_error h.writable
          (h.channelType channel l hl).1.isWritable (h.known hr).isWritable hunify
        -- a solution would satisfy the bindings and make both types equal
        refine .stopped (.incompatible hpin (fun σ hσ ↦ ?_) conflict message)
        exact hnone σ (h.forced σ hσ) (h.agree hpin hl hr hσ)
      | ok m =>
        obtain ⟨p', hrefine, hgoal⟩ := exists_unified h hpin hl hr hunify
        have hm : m.Acyclic :=
          (h.unify (h.channelType channel l hl).1 (h.known hr) (fun _ ↦ h.agree hpin hl hr)
            hunify).acyclic
        obtain ⟨refined, href, hgetD⟩ := Bindings.exists_refine?_eq hm l
        dsimp only
        rw [href]
        dsimp only
        rw [hgetD, hrefine]
        exact .reached hgoal

/-- A visit settles its channel. -/
theorem visit_reaches (h : Sound g p) (channel : String) :
    Reaches g (fun p' ↦ Sound g p' ∧ Advances g p p' ∧ Settled g p' channel)
      (visit g p channel) := by
  have hloop : ∀ (pins : List PinRef) (p : Pass), Sound g p →
      (∀ pin ∈ pins, pin ∈ g.cachedPins channel) →
        Reaches g (fun p' ↦ Sound g p' ∧ Advances g p p' ∧ ∀ pin ∈ pins, Agreed g p' channel pin)
          (pins.foldlM (visitPin g channel) p) := by
    intro pins
    induction pins with
    | nil => exact fun p h _ ↦ .reached ⟨h, Advances.refl g p, fun _ hpin ↦ nomatch hpin⟩
    | cons pin pins ih =>
      intro p h hpins
      obtain ⟨hpin, hpins⟩ := List.forall_mem_cons.1 hpins
      rw [List.foldlM_cons]
      refine (visitPin_reaches h hpin).bind fun p' ⟨h', hadvances, hagreed⟩ ↦ ?_
      refine (ih p' h' hpins).mono fun p'' ⟨h'', hadvances', hrest⟩ ↦ ?_
      exact ⟨h'', hadvances.trans hadvances',
        List.forall_mem_cons.2 ⟨hagreed.mono hadvances', hrest⟩⟩
  exact hloop _ p h fun _ hpin ↦ hpin

end Visit

/-! ### Runs -/

/-- The state of an inference that has come to its end: nothing is left to visit, and the types of
every channel agree. -/
structure Solved (g : Graph) (p : Pass) : Prop extends Sound g p where
  /-- No channel is to be visited. -/
  idle : p.queue = []
  /-- Every channel is settled. -/
  settled : ∀ channel, Settled g p channel

/-- When the queue is empty all channels are settled, so the graph is solved. -/
theorem solved_of_queue_eq_nil (h : Sound g p)
    (hsettled : ∀ channel, channel ∈ p.queue ∨ Settled g p channel) (hempty : p.queue = []) :
    Solved g p := by
  refine ⟨h, hempty, fun channel ↦ (hsettled channel).resolve_left fun hmem ↦ ?_⟩
  rw [hempty] at hmem
  exact List.not_mem_nil hmem

/-- With as many visits as there is work every channel gets settled, unless the run stops. -/
theorem run_reaches (visits : Nat) (h : Sound g p)
    (hsettled : ∀ channel, channel ∈ p.queue ∨ Settled g p channel)
    (hwork : p.work g ≤ visits) : Reaches g (Solved g) (run g visits p) := by
  induction visits generalizing p with
  | zero =>
    -- no work means an empty queue, so nothing is cut off here
    have hempty : p.queue = [] := by
      rw [← List.length_eq_zero_iff]
      unfold work at hwork
      omega
    exact .reached (solved_of_queue_eq_nil h hsettled hempty)
  | succ visits ih =>
    unfold run
    split
    · rename_i hempty
      exact .reached (solved_of_queue_eq_nil h hsettled hempty)
    · rename_i channel queue hqueue
      have hpopped : Sound g { p with queue := queue } :=
        { h with queue := fun c hc ↦ h.queue c (hqueue ▸ List.mem_cons_of_mem _ hc) }
      have hpop := work_pop (g := g) hqueue
      refine (visit_reaches hpopped channel).bind fun p' ⟨h', hadvances, hchannel⟩ ↦ ?_
      refine ih h' (fun c ↦ ?_) ?_
      · rcases hsettled c with hmem | hc
        · rw [hqueue] at hmem
          rcases List.mem_cons.1 hmem with rfl | hmem
          · exact .inr hchannel
          · exact .inl (hadvances.queue c hmem)
        · -- taking a channel out of the queue changes no types
          have hpoppedSettled : Settled g { p with queue := queue } c := hc
          exact .inr (hpoppedSettled.mono hadvances)
      · have hvisit := hadvances.work
        omega

/-- An inference gets every channel settled, unless it stops. -/
theorem run_start_reaches (g : Graph) :
    Reaches g (Solved g) (run g (start g).visitBound (start g)) := by
  refine run_reaches _ (sound_start g) (fun channel ↦ ?_) (work_start_le g)
  by_cases hmem : channel ∈ g.channels
  · exact .inl hmem
  · exact .inr fun pin hpin ↦ absurd (Graph.mem_channels_of_mem_cachedPins hpin) hmem

/-- Where all channels are settled the values of the bindings make the types agree that the caches
relate. -/
theorem cachedSolution_of_settled (h : p.bindings.Acyclic)
    (hsettled : ∀ channel, Settled g p channel) : g.CachedSolution p.bindings.value := by
  intro channel pin hpin pin' hpin' e e' he he'
  obtain ⟨t, e₀, ht, he₀, hentails⟩ := hsettled channel pin hpin
  obtain ⟨t', e₀', ht', he₀', hentails'⟩ := hsettled channel pin' hpin'
  rw [he] at he₀
  rw [he'] at he₀'
  rw [ht] at ht'
  obtain rfl := Option.some.inj he₀
  obtain rfl := Option.some.inj he₀'
  obtain rfl := Option.some.inj (Option.some.inj ht')
  exact (hentails.symm.trans hentails') _ (Bindings.satisfiedBy_value h)

/-- The bindings at the end of the visits solve the graph. -/
theorem Solved.cachedSolution (h : Solved g p) : g.CachedSolution p.bindings.value :=
  cachedSolution_of_settled h.acyclic h.settled

/-- Whatever makes the types agree that the caches relate factors through the values of the
bindings. -/
theorem Sound.substitute_value (h : Sound g p) {σ : TypeParam → TypeExpr}
    (hσ : g.CachedSolution σ) (q : TypeParam) : (p.bindings.value q).substitute σ = σ q :=
  Bindings.substitute_value h.acyclic (h.forced σ hσ) q

end Pass

end ChannelGraph
