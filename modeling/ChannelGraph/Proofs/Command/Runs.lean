import ChannelGraph.Command.Session

/-!
# Runs of commands

A command is a sequence of steps, and what it does follows from what its steps do (`run_bind`).
Two things are said of steps: what one of them leaves, and in which ways it may end a command early
(`EndsIn`). The second is closed under everything that commands are built with, so that it is read
off a command step by step.
-/

namespace ChannelGraph

/-- A session in which some more lines have been told. -/
def Session.tell (s : Session) (lines : List String) : Session :=
  { s with messages := s.messages ++ lines }

theorem Session.tell_tell (s : Session) (lines lines' : List String) :
    (s.tell lines).tell lines' = s.tell (lines ++ lines') := by
  simp [tell, List.append_assoc]

namespace Run

variable {α β ε : Type}

/-! ### Running step by step -/

/-- What two steps in a row do: the second runs in the session that the first one leaves, or not at
all if that ends early. -/
theorem run_bind (m : Run α) (k : α → Run β) (s : Session) :
    (m >>= k).run.run s =
      match m.run.run s with
      | (.ok a, s') => (k a).run.run s'
      | (.error e, s') => (.error e, s') := by
  rw [ExceptT.run_bind, StateT.run_bind]
  change (match m.run.run s with | (r, s') => _) = _
  rcases m.run.run s with ⟨_ | _, _⟩ <;> rfl

/-- A run that comes to a result goes on with it in the state that it has left. -/
theorem run_bind_of_ok {m : Run α} {s s' : Session} {a : α} (h : m.run.run s = (.ok a, s'))
    (k : α → Run β) : (m >>= k).run.run s = (k a).run.run s' := by
  rw [run_bind, h]

/-- Nothing runs behind a step that ends the command. -/
theorem run_bind_of_error {m : Run α} {s s' : Session} {e : Ending}
    (h : m.run.run s = (.error e, s')) (k : α → Run β) :
    (m >>= k).run.run s = (.error e, s') := by
  rw [run_bind, h]

theorem run_get (s : Session) : (get : Run Session).run.run s = (.ok s, s) :=
  rfl

/-- Telling something adds lines to what has been told, or ends the command over a fault of markup
with nothing added. -/
theorem run_say (b : Console.Block) (s : Session) :
    (say b).run.run s =
      match b.lines with
      | .ok lines => (.ok (), s.tell lines)
      | .error f => (.error (.crash (.markup f)), s) := by
  rw [say, run_bind]
  cases b.lines <;> rfl

theorem run_say_of_ok {b : Console.Block} {lines : List String} (h : b.lines = .ok lines)
    (s : Session) : (say b).run.run s = (.ok (), s.tell lines) := by
  rw [run_say, h]

/-- Telling nothing tells an empty line. -/
theorem run_sayNothing (s : Session) : sayNothing.run.run s = (.ok (), s.tell [""]) :=
  run_say _ s

/-! ### Ways to end -/

/-- A run ends early in allowed ways only. -/
def EndsIn (allowed : Ending → Prop) (m : Run α) : Prop :=
  ∀ ⦃s s' : Session⦄ ⦃e : Ending⦄, m.run.run s = (.error e, s') → allowed e

namespace EndsIn

variable {allowed : Ending → Prop}

/-- A run that never ends early ends in allowed ways only. -/
theorem of_run {m : Run α} (h : ∀ s, ∃ a s', m.run.run s = (.ok a, s')) : EndsIn allowed m := by
  intro s s' e he
  obtain ⟨a, s'', ha⟩ := h s
  rw [ha] at he
  cases he

theorem pure (a : α) : EndsIn allowed (pure a : Run α) :=
  of_run fun s ↦ ⟨a, s, rfl⟩

/-- Two steps in a row end early where one of them does. -/
theorem bind {m : Run α} {k : α → Run β} (hm : EndsIn allowed m) (hk : ∀ a, EndsIn allowed (k a)) :
    EndsIn allowed (m >>= k) := by
  intro s s' e he
  rw [run_bind] at he
  split at he
  · exact hk _ he
  · rename_i hrun
    cases he
    exact hm hrun

/-- A crash ends as it says. -/
theorem crash {c : Crash} (h : allowed (.crash c)) : EndsIn allowed (crash c : Run α) := by
  intro s s' e he
  cases he
  exact h

/-- An exit ends as it says. -/
theorem exit {n : Nat} (h : allowed (.exit n)) : EndsIn allowed (exit n : Run α) := by
  intro s s' e he
  cases he
  exact h

/-- A result that may be a fault ends the run only by crashing over that fault. -/
theorem orCrash {cause : ε → Crash} {r : Except ε α}
    (h : ∀ f, r = .error f → allowed (.crash (cause f))) : EndsIn allowed (orCrash cause r) := by
  cases r with
  | ok a => exact pure a
  | error f => exact crash (h f rfl)

/-- Telling something ends early only over a fault of its markup. -/
theorem say {b : Console.Block} (h : ∀ f, b.lines = .error f → allowed (.crash (.markup f))) :
    EndsIn allowed (say b) :=
  bind (orCrash h) fun _ ↦ of_run fun _ ↦ ⟨(), _, rfl⟩

/-- Printing goes on or crashes over markup that cannot be read. -/
theorem print {b : Console.Block} (h : ∀ f, b.lines = .error f → allowed (.crash (.markup f))) :
    EndsIn allowed (print b) :=
  bind (orCrash h) fun _ ↦ of_run fun _ ↦ ⟨(), _, rfl⟩

/-- A step for every item ends early where a step for one of them does. -/
theorem forM {γ : Type} {xs : List γ} {step : γ → Run Unit} (h : ∀ x, EndsIn allowed (step x)) :
    EndsIn allowed (xs.forM step) := by
  induction xs with
  | nil => exact pure ()
  | cons x xs ih => exact bind (h x) fun _ ↦ ih

end EndsIn

/-! ### Telling -/

/-- A run that at most tells something: it leaves files and folder alone, and it ends early in
allowed ways only. -/
structure Tells (allowed : Ending → Prop) (m : Run α) : Prop where
  /-- The files stay. -/
  files : ∀ s, (m.run.run s).2.files = s.files
  /-- The folder stays. -/
  folder : ∀ s, (m.run.run s).2.folder = s.folder
  /-- It does not end early in other ways. -/
  endsIn : EndsIn allowed m

namespace Tells

variable {allowed : Ending → Prop}

/-- A run that changes nothing at all at most tells something. -/
theorem of_run {m : Run α} (h : ∀ s, ∃ a, m.run.run s = (.ok a, s)) : Tells allowed m := by
  refine ⟨fun s ↦ ?_, fun s ↦ ?_, .of_run fun s ↦ ?_⟩ <;> obtain ⟨a, ha⟩ := h s
  · rw [ha]
  · rw [ha]
  · exact ⟨a, s, ha⟩

theorem pure (a : α) : Tells allowed (pure a : Run α) :=
  of_run fun _ ↦ ⟨a, rfl⟩

theorem get : Tells allowed (get : Run Session) :=
  of_run fun s ↦ ⟨s, rfl⟩

/-- Two steps in a row only tell if both of them do. -/
theorem bind {m : Run α} {k : α → Run β} (hm : Tells allowed m) (hk : ∀ a, Tells allowed (k a)) :
    Tells allowed (m >>= k) := by
  refine ⟨fun s ↦ ?_, fun s ↦ ?_, .bind hm.endsIn fun a ↦ (hk a).endsIn⟩
  · have hs := hm.files s
    rw [run_bind]
    split <;> rename_i hrun <;> rw [hrun] at hs
    · exact ((hk _).files _).trans hs
    · exact hs
  · have hs := hm.folder s
    rw [run_bind]
    split <;> rename_i hrun <;> rw [hrun] at hs
    · exact ((hk _).folder _).trans hs
    · exact hs

/-- A crash leaves files and folder as they are. -/
theorem crash {c : Crash} (h : allowed (.crash c)) : Tells allowed (crash c : Run α) :=
  ⟨fun _ ↦ rfl, fun _ ↦ rfl, .crash h⟩

/-- An exit leaves files and folder as they are. -/
theorem exit {n : Nat} (h : allowed (.exit n)) : Tells allowed (exit n : Run α) :=
  ⟨fun _ ↦ rfl, fun _ ↦ rfl, .exit h⟩

/-- Telling adds to what has been told and to nothing else. -/
theorem say {b : Console.Block} (h : ∀ f, b.lines = .error f → allowed (.crash (.markup f))) :
    Tells allowed (say b) := by
  refine ⟨fun s ↦ ?_, fun s ↦ ?_, .say h⟩ <;> rw [run_say] <;> cases b.lines <;> rfl

/-- A step for every item only tells if the step does, whatever the item is. -/
theorem forM {γ : Type} {xs : List γ} {step : γ → Run Unit} (h : ∀ x, Tells allowed (step x)) :
    Tells allowed (xs.forM step) := by
  induction xs with
  | nil => exact pure ()
  | cons x xs ih => exact bind (h x) fun _ ↦ ih

end Tells

end Run

end ChannelGraph
