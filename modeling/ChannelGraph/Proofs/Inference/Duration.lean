import ChannelGraph.Proofs.Inference.Sweep
import Mathlib.Data.Set.Card

/-!
# How long an inference takes

The loop over the queue has no count of its own: it goes on until the queue is empty or a visit
stops (`Pass.Ends`). That it comes to one of the two ends is due to the work that is left in a
state, which every visit takes from (`Visited.sound_and_work`). At the start the work is no more
than twice the number of channels and one for every pair of a connected pin and a parameter in the
declared types of such pins (`Graph.visitLimit`), whatever the caches hold.

So the count that `Pass.run` is given does not show (`visits_end`): from that limit on the run is
the loop.
-/

namespace ChannelGraph

namespace Graph

variable {g : Graph} {pin : PinRef} {q : TypeParam}

/-- The pins that are connected to a channel of the graph. -/
def connectedPins (g : Graph) : Set PinRef :=
  {pin | ∃ channel ∈ g.channels, ∃ e, g.Wired channel pin e}

/-- The parameters in the declared types of connected pins, each in the scope of its node. -/
def connectedParams (g : Graph) : Set TypeParam :=
  {q | ∃ channel ∈ g.channels, ∃ pin e, g.Wired channel pin e ∧ q ∈ e.params}

/-- Twice the number of channels, and one for every connected pin and parameter of such pins. -/
noncomputable def visitLimit (g : Graph) : Nat :=
  2 * g.channels.size + g.connectedPins.ncard * g.connectedParams.ncard

end Graph

namespace Pass

variable {g : Graph} {p p' : Pass} {pin : PinRef} {q : TypeParam} {channel : String}
  {done : List String} {out : Except InferenceFault Pass}

/-! ### Counting pins and parameters -/

/-- The typed pins are those for which the visits have found a type. -/
theorem mem_typedPins_iff : pin ∈ p.typedPins ↔ ∃ t, p.pinType? pin = some t := by
  constructor
  · intro h
    obtain ⟨⟨node, types⟩, hentry, hpin⟩ := List.mem_flatMap.1 h
    obtain ⟨x, hx, rfl⟩ := List.mem_map.1 hpin
    obtain ⟨t, ht⟩ := OrderedMap.mem_iff_exists.1 (OrderedMap.mem_iff.2 hx)
    exact ⟨t, Option.bind_eq_some_iff.2 ⟨types, OrderedMap.get?_eq_some_iff.2 hentry, ht⟩⟩
  · rintro ⟨t, ht⟩
    exact mem_typedPins ht

/-- No pin is counted twice. -/
theorem nodup_typedPins (p : Pass) : p.typedPins.Nodup :=
  Graph.nodup_pinRefs p.pinTypes fun entry _ ↦ entry.2.nodup_keys

/-- The parameters of a state are those in the types of its pins. -/
theorem mem_params_iff : q ∈ p.params ↔ ∃ pin t, p.pinType? pin = some t ∧ q ∈ t.params := by
  constructor
  · intro h
    obtain ⟨types, htypes, hq⟩ := List.mem_flatMap.1 (List.mem_eraseDups.1 h)
    obtain ⟨t, ht, hq⟩ := List.mem_flatMap.1 hq
    obtain ⟨node, hnode⟩ := OrderedMap.exists_get?_of_mem_values htypes
    obtain ⟨x, hx⟩ := OrderedMap.exists_get?_of_mem_values ht
    exact ⟨⟨node, x⟩, t, Option.bind_eq_some_iff.2 ⟨types, hnode, hx⟩, hq⟩
  · rintro ⟨pin, t, ht, hq⟩
    exact mem_params ht hq

/-- A set that is listed without repetition has as many members as the list. -/
private theorem ncard_setOf_mem {α : Type} [DecidableEq α] {xs : List α} (h : xs.Nodup) :
    {x | x ∈ xs}.ncard = xs.length := by
  rw [← List.coe_toFinset, Set.ncard_coe_finset, List.toFinset_card_of_nodup h]

/-- The bound on the visits that an inference counts is the one in terms of the graph. -/
theorem visitBound_start (g : Graph) : (start g).visitBound = g.visitLimit := by
  -- the lists of the bound have no repetitions, so they are as long as the sets are large
  have hpins : g.connectedPins = {pin | pin ∈ (start g).typedPins} := by
    refine Set.ext fun pin ↦ ?_
    show (∃ channel ∈ g.channels, ∃ e, g.Wired channel pin e) ↔ pin ∈ (start g).typedPins
    simp only [mem_typedPins_iff, pinType?_start_iff]
    constructor
    · rintro ⟨channel, hmem, e, hwired⟩
      exact ⟨e, channel, hmem, hwired⟩
    · rintro ⟨e, channel, hmem, hwired⟩
      exact ⟨channel, hmem, e, hwired⟩
  have hparams : g.connectedParams = {q | q ∈ (start g).params} := by
    refine Set.ext fun q ↦ ?_
    show (∃ channel ∈ g.channels, ∃ pin e, g.Wired channel pin e ∧ q ∈ e.params) ↔
      q ∈ (start g).params
    simp only [mem_params_iff, pinType?_start_iff]
    constructor
    · rintro ⟨channel, hmem, pin, e, hwired, hq⟩
      exact ⟨pin, e, ⟨channel, hmem, hwired⟩, hq⟩
    · rintro ⟨pin, e, ⟨channel, hmem, hwired⟩, hq⟩
      exact ⟨channel, hmem, pin, e, hwired, hq⟩
  have hsize : (start g).channelTypes.size = g.channels.size := List.length_map _
  have hnodup : (start g).params.Nodup := nodup_eraseDups _
  rw [visitBound, Graph.visitLimit, hpins, hparams, ncard_setOf_mem (nodup_typedPins _),
    ncard_setOf_mem hnodup, length_typedPins, hsize]

/-! ### The ends of the loop -/

/-- The ends of the loop over the queue, with the channels that were visited on the way. -/
inductive Ends (g : Graph) : List String → Except InferenceFault Pass → Prop
  /-- Nothing is left to visit. -/
  | idle {done : List String} {p : Pass} (h : Visited g done p) (hqueue : p.queue = []) :
      Ends g done (.ok p)
  /-- A visit stops. -/
  | stopped {done queue : List String} {channel : String} {p : Pass} {f : InferenceFault}
      (h : Visited g done p) (hqueue : p.queue = channel :: queue)
      (hrun : visit g { p with queue := queue } channel = .error f) :
      Ends g (done ++ [channel]) (.error f)

/-- Every visit takes from the work that was there at the start. -/
theorem Visited.sound_and_work (h : Visited g done p) :
    Sound g p ∧ done.length + p.work g ≤ g.visitLimit := by
  induction h with
  | first =>
    have hstart := work_start_le g
    rw [visitBound_start] at hstart
    exact ⟨sound_start g, by rwa [List.length_nil, Nat.zero_add]⟩
  | @next done queue channel p p' _ hqueue hrun ih =>
    obtain ⟨hsound, hwork⟩ := ih
    have hreaches := visit_reaches (hsound.pop hqueue) channel
    rw [hrun] at hreaches
    cases hreaches with
    | reached hgoal =>
      obtain ⟨hsound', hadvances, -⟩ := hgoal
      have hpop := work_pop (g := g) hqueue
      have hvisit := hadvances.work
      refine ⟨hsound', ?_⟩
      rw [List.length_append, List.length_singleton]
      omega

/-- Every channel in the queue is a piece of work. -/
theorem length_queue_le_work (g : Graph) (p : Pass) : p.queue.length ≤ p.work g := by
  unfold work
  omega

/-- With the channels that were visited and those in the queue an inference stays within the
limit. -/
theorem Visited.length_le (h : Visited g done p) :
    done.length + p.queue.length ≤ g.visitLimit := by
  have hwork := h.sound_and_work.2
  have hqueue := length_queue_le_work g p
  omega

/-- A run that ends has made no more visits than the limit allows. -/
theorem Ends.length_le (h : Ends g done out) : done.length ≤ g.visitLimit := by
  cases h with
  | idle h _ =>
    have hlimit := h.length_le
    omega
  | stopped h hqueue _ =>
    have hlimit := h.length_le
    rw [hqueue, List.length_cons] at hlimit
    rw [List.length_append, List.length_singleton]
    omega

/-- What stops the loop does not depend on the visits before. -/
theorem Ends.justified {f : InferenceFault} (h : Ends g done (.error f)) : Justified g f := by
  cases h with
  | @stopped _ _ channel _ _ h hqueue hrun =>
    have hreaches := visit_reaches (h.sound_and_work.1.pop hqueue) channel
    rw [hrun] at hreaches
    cases hreaches with
    | stopped hf => exact hf

/-- With an empty queue nothing is done. -/
theorem run_of_queue_eq_nil (h : p.queue = []) (visits : Nat) : run g visits p = .ok p := by
  cases visits with
  | zero => rfl
  | succ visits => rw [run, h]

/-- While there is a channel in the queue the first one is visited. -/
theorem run_succ_of_queue_eq_cons {queue : List String} (h : p.queue = channel :: queue)
    (visits : Nat) :
    run g (visits + 1) p = (visit g { p with queue := queue } channel).bind (run g visits) := by
  rw [run, h]

/-- A run that is given as many visits as there is work left comes to an end of the loop, the same
one for all such numbers of visits. -/
theorem Visited.exists_ends {done : List String} {p : Pass} (h : Visited g done p) :
    ∃ done' out, Ends g done' out ∧ ∀ visits ≥ p.work g, run g visits p = out := by
  cases hqueue : p.queue with
  | nil => exact ⟨done, _, .idle h hqueue, fun visits _ ↦ run_of_queue_eq_nil hqueue visits⟩
  | cons channel queue =>
    have hpop := work_pop (g := g) hqueue
    have hreaches := visit_reaches (h.sound_and_work.1.pop hqueue) channel
    cases hvisit : visit g { p with queue := queue } channel with
    | error f =>
      refine ⟨_, _, .stopped h hqueue hvisit, fun visits hvisits ↦ ?_⟩
      obtain ⟨more, rfl⟩ : ∃ more, visits = more + 1 := ⟨visits - 1, by omega⟩
      rw [run_succ_of_queue_eq_cons hqueue, hvisit]
      rfl
    | ok p' =>
      rw [hvisit] at hreaches
      cases hreaches with
      | reached hgoal =>
        -- what is left after the visit is less work than before it
        have hless := hgoal.2.1.work
        obtain ⟨done', out, hends, hrun⟩ := exists_ends (.next h hqueue hvisit)
        refine ⟨done', out, hends, fun visits hvisits ↦ ?_⟩
        obtain ⟨more, rfl⟩ : ∃ more, visits = more + 1 := ⟨visits - 1, by omega⟩
        rw [run_succ_of_queue_eq_cons hqueue, hvisit]
        exact hrun more (by omega)
termination_by p.work g

/-- The loop over the queue ends, whatever the wiring and the caches are: it cannot make more visits
than the limit, it gets to a state with an empty queue or to a visit that stops, and the counted run
that an inference makes has the same end. -/
theorem visits_end (g : Graph) :
    (∀ done p, Visited g done p → done.length + p.queue.length ≤ g.visitLimit) ∧
      ∃ done out, Ends g done out ∧ done.length ≤ g.visitLimit ∧
        (∀ f, out = .error f → Justified g f) ∧
        ∀ visits ≥ g.visitLimit, run g visits (start g) = out := by
  refine ⟨fun done p h ↦ h.length_le, ?_⟩
  have hwork := work_start_le g
  rw [visitBound_start] at hwork
  obtain ⟨done, out, hends, hrun⟩ := (Visited.first (g := g)).exists_ends
  refine ⟨done, out, hends, hends.length_le, fun f hf ↦ ?_, fun visits hvisits ↦ ?_⟩
  · rw [hf] at hends
    exact hends.justified
  · exact hrun visits (Nat.le_trans hwork hvisits)

end Pass

end ChannelGraph
