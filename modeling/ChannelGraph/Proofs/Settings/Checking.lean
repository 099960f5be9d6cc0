import ChannelGraph.Command.Execution
import ChannelGraph.Proofs.Command.Runs
import ChannelGraph.Proofs.Console.Styled
import ChannelGraph.Proofs.Settings.Reading
import Mathlib

/-!
# Checking a graph beside any settings

Checking a graph that is given needs nothing of the settings but a default type, so faults in them
are told of and left aside. Whether that is enough depends on two things: whether a fault is told at
all, which the text of the settings decides (`Settings.ofText_eq_untold_iff`), and whether what
is told of it can be shown, which escaping it settles but for a line that cannot be cut
(`Run.eq_uncut_of_lines_notice`). What comes after the settings never ends for their sake
(`Run.endsIn_checkWith`), which is seen step by step (`Run.EndsIn`).

`Settings.ofText_surfaces` puts this together for every text of a settings file.
`Settings.ofText_toolsNumber` is the shortest document that ends the checking of a graph it has
nothing to do with. Nothing is said about settings files that are no texts.
-/

namespace ChannelGraph

namespace Run

variable {α : Type}

/-! ### Reading settings -/

/-- What is told about settings that are left aside. -/
def notice (f : SettingsFault) : Console.Block :=
  .markup (.styled "yellow" (⟨"⚠ Ignoring project settings: "⟩ ++ .ofText f.message))

/-- What is told about settings is escaped, so it is refused only over a line that cannot be cut. -/
theorem eq_uncut_of_lines_notice {f : SettingsFault} {m : Markup.Fault}
    (h : (notice f).lines = .error m) : m = .uncut :=
  (Markup.isReadable_styled_ofText (Markup.isPlainStyle_of_mem (by decide)) (by simp) _).eq_uncut h

/-- What reading settings does that are not required. -/
theorem run_settings_false (s : Session) :
    (settings false).run.run s =
      match Settings.get s.files s.folder with
      | .ok settings => (.ok settings, s)
      | .error f =>
        if f.isTold then
          match (notice f).lines with
          | .ok lines => (.ok {}, s.tell lines)
          | .error m => (.error (.crash (.markup m)), s)
        else (.error (.crash (.settings f)), s) := by
  rw [settings, run_bind, run_get]
  dsimp only
  cases Settings.get s.files s.folder with
  | ok settings => rfl
  | error f =>
    dsimp only
    cases f.isTold with
    | false => rfl
    | true =>
      simp only [Bool.not_true, if_false, if_true, Bool.false_eq_true]
      rw [sayStyled, run_bind, run_say, ← notice]
      cases (notice f).lines <;> rfl

/-! ### Checking -/

/-- An ending that settings cause: the command or the settings are wrong, or the settings cannot be
looked up. -/
def EndsBySettings (e : Ending) : Prop :=
  e = .exit 2 ∨ ∃ f, e = .crash (.settings f)

/-- A failure of another kind exits with code 1. -/
theorem not_endsBySettings_exit_one : ¬EndsBySettings (.exit 1) := by
  rintro (h | ⟨f, h⟩) <;> cases h

theorem not_endsBySettings_crash {c : Crash} (h : ∀ f, c ≠ .settings f) :
    ¬EndsBySettings (.crash c) := by
  rintro (hexit | ⟨f, hcrash⟩)
  · cases hexit
  · cases hcrash
    exact h f rfl

theorem not_endsBySettings_markup (f : Markup.Fault) : ¬EndsBySettings (.crash (.markup f)) :=
  not_endsBySettings_crash fun _ ↦ Crash.noConfusion

theorem endsIn_say (b : Console.Block) : EndsIn (fun e ↦ ¬EndsBySettings e) (say b) :=
  .say fun f _ ↦ not_endsBySettings_markup f

theorem endsIn_print (b : Console.Block) : EndsIn (fun e ↦ ¬EndsBySettings e) (print b) :=
  .print fun f _ ↦ not_endsBySettings_markup f

/-- To fail to load a graph is no failure of the settings. -/
theorem endsIn_failToLoad (path : Path) (why : String) (details : List String) :
    EndsIn (fun e ↦ ¬EndsBySettings e) (failToLoad path why details : Run α) :=
  .bind (endsIn_say _) fun _ ↦ .bind (.forM fun _ ↦ endsIn_say _) fun _ ↦
    .exit not_endsBySettings_exit_one

/-- Nothing that happens while a graph is loaded from a given path is a failure of the settings. -/
theorem endsIn_load (path : Path) (known : Option Settings) :
    EndsIn (fun e ↦ ¬EndsBySettings e) (load (some path) known) := by
  refine .bind (.pure path) fun path ↦ .bind (endsIn_say _) fun _ ↦
    .bind (.of_run fun s ↦ ⟨s, s, rfl⟩) fun s ↦ ?_
  split
  · exact .crash (not_endsBySettings_crash fun _ ↦ Crash.noConfusion)
  · exact endsIn_failToLoad _ _ _
  · split
    · exact endsIn_failToLoad _ _ _
    · exact .bind (endsIn_say _) fun _ ↦ .pure _

/-- To fail to infer types is no failure of the settings. -/
theorem endsIn_failToInfer (channel : String) (pin : PinRef) (message : String) :
    EndsIn (fun e ↦ ¬EndsBySettings e) (failToInfer channel pin message : Run α) :=
  .bind (endsIn_say _) fun _ ↦ .bind (endsIn_say _) fun _ ↦ .bind (endsIn_say _) fun _ ↦
    .bind (endsIn_say _) fun _ ↦ .bind (endsIn_say _) fun _ ↦ .exit not_endsBySettings_exit_one

/-- Checking a graph that is given never ends because of settings, once these are there. -/
theorem endsIn_checkWith (settings : Settings) (path : Path) :
    EndsIn (fun e ↦ ¬EndsBySettings e) (checkWith settings (some path)) := by
  refine .bind (endsIn_load path _) fun graph ↦ .bind (endsIn_say _) fun _ ↦ ?_
  split
  · exact endsIn_failToInfer _ _ _
  · exact .crash (not_endsBySettings_crash fun _ ↦ Crash.noConfusion)
  · refine .bind (endsIn_say _) fun _ ↦ .bind ?_ fun report ↦ .bind (endsIn_print _) fun _ ↦
      .bind (endsIn_print _) fun _ ↦ .bind (endsIn_say _) fun _ ↦ .bind (endsIn_say _) fun _ ↦
        endsIn_say _
    exact .orCrash fun _ _ ↦ not_endsBySettings_crash fun _ ↦ Crash.noConfusion

/-! ### Settings files of every kind -/

/-- Where a settings file with a text counts, the settings are those of its text. -/
theorem get_of_find? {files : FileTree} {folder file : List String} {text : String}
    (hfile : Settings.find? files folder = some file)
    (htext : files.entry? file = some (.text text)) :
    Settings.get files folder = Settings.ofText (.absolute file) text := by
  rw [Settings.get, hfile]
  simp only [Settings.load, htext]

end Run

/-- What checking a graph that is given does. -/
theorem Command.run_check (path : Path) (s : Session) :
    (Command.check (some path)).run s =
      match Settings.get s.files s.folder with
      | .ok settings => (Run.checkWith settings (some path)).run.run (s.tell [""])
      | .error f =>
        if f.isTold then
          match (Run.notice f).lines with
          | .ok lines => (Run.checkWith {} (some path)).run.run (s.tell ("" :: lines))
          | .error m => (.error (.crash (.markup m)), s.tell [""])
        else (.error (.crash (.settings f)), s.tell [""]) := by
  change (Run.check (some path)).run.run s = _
  rw [Run.check, Run.run_bind, Run.run_sayNothing]
  dsimp only
  rw [Run.run_bind, Option.isNone_some, Run.run_settings_false]
  have hget : Settings.get (s.tell [""]).files (s.tell [""]).folder =
      Settings.get s.files s.folder := rfl
  rw [hget]
  cases Settings.get s.files s.folder with
  | ok settings => rfl
  | error f =>
    dsimp only
    cases f.isTold with
    | false => rfl
    | true =>
      simp only [if_true]
      cases (Run.notice f).lines with
      | ok lines =>
        dsimp only
        rw [Session.tell_tell]
        rfl
      | error m => rfl

namespace Settings

variable {s : Session} {f : SettingsFault}

/-- Checking a given graph goes on with settings after some lines about them. -/
def GoesOn (s : Session) (path : Path) (settings : Settings) (lines : List String) : Prop :=
  (Command.check (some path)).run s =
    (Run.checkWith settings (some path)).run.run (s.tell ("" :: lines))

/-- Where a fault is told, checking a given graph goes on without settings, unless the line that
tells of the fault cannot be cut to the console. -/
theorem goesOn_of_isTold (h : get s.files s.folder = .error f) (hf : f.isTold) (path : Path) :
    (∃ lines, (Run.notice f).lines = .ok lines ∧ GoesOn s path {} lines) ∨
      ((Run.notice f).lines = .error .uncut ∧
        (Command.check (some path)).run s = (.error (.crash (.markup .uncut)), s.tell [""])) := by
  have hrun := Command.run_check path s
  simp only [h, hf, if_true] at hrun
  cases hlines : (Run.notice f).lines with
  | ok lines =>
    rw [hlines] at hrun
    exact .inl ⟨lines, rfl, hrun⟩
  | error m =>
    cases Run.eq_uncut_of_lines_notice hlines
    rw [hlines] at hrun
    exact .inr ⟨rfl, hrun⟩

/-- Checking a given graph ends because of settings exactly if these have a fault that is not
told. -/
theorem endsBySettings_check_iff (s : Session) (path : Path) :
    (∃ e s', (Command.check (some path)).run s = (.error e, s') ∧ Run.EndsBySettings e) ↔
      ∃ f, get s.files s.folder = .error f ∧ f.isTold = false := by
  constructor
  · rintro ⟨e, s', hrun, hends⟩
    cases hget : get s.files s.folder with
    | ok settings =>
      simp only [Command.run_check, hget] at hrun
      exact absurd hends (Run.endsIn_checkWith _ _ hrun)
    | error f =>
      refine ⟨f, rfl, Bool.eq_false_iff.2 fun htold ↦ ?_⟩
      rcases goesOn_of_isTold hget htold path with ⟨lines, -, hgoes⟩ | ⟨-, huncut⟩
      · exact Run.endsIn_checkWith _ _ (hgoes.symm.trans hrun) hends
      · cases huncut.symm.trans hrun
        exact Run.not_endsBySettings_markup _ hends
  · rintro ⟨f, hget, hf⟩
    refine ⟨.crash (.settings f), s.tell [""], ?_, .inr ⟨f, rfl⟩⟩
    simp only [Command.run_check, hget, hf, Bool.false_eq_true, if_false]

/-- For a text of every shape there are settings exactly if its document can be looked through and
what it gives settings makes sense, and then the default type is concrete and has a text. The
lookup fails without being told exactly for a document in which something is in the way of the
section, or for a number too long to be taken in. Checking a given graph beside a settings file
with this text uses the settings if there are any and goes on without them if a fault is told, and
it ends because of them exactly in the other cases. -/
theorem ofText_surfaces (text : String) :
    (∀ (file : Path) (settings : Settings), ofText file text = .ok settings ↔
      ∃ entries, Toml.ofText text = .ok entries ∧ (∀ f, ¬Misplaced entries f) ∧
        Configured file.parent entries settings) ∧
    (∀ (file : Path) (settings : Settings), ofText file text = .ok settings →
      settings.defaultType.isConcrete ∧ ∃ t, settings.defaultType.written = .ok t) ∧
    (∀ (file : Path) (f : SettingsFault),
      (ofText file text = .error f ∧ f.isTold = false) ↔ Untold text f) ∧
    ∀ (s : Session) (file : List String), find? s.files s.folder = some file →
      s.files.entry? file = some (.text text) → ∀ path : Path,
        (∀ settings, ofText (.absolute file) text = .ok settings → GoesOn s path settings []) ∧
        (∀ f, ofText (.absolute file) text = .error f → f.isTold →
          (∃ lines, (Run.notice f).lines = .ok lines ∧ GoesOn s path {} lines) ∨
            ((Run.notice f).lines = .error .uncut ∧ (Command.check (some path)).run s =
              (.error (.crash (.markup .uncut)), s.tell [""]))) ∧
        ((∃ e s', (Command.check (some path)).run s = (.error e, s') ∧ Run.EndsBySettings e) ↔
          ∃ f, Untold text f) := by
  refine ⟨fun file settings ↦ ofText_eq_ok_iff, fun file settings h ↦ ?_,
    fun file f ↦ ofText_eq_untold_iff, fun s file hfile htext path ↦ ?_⟩
  · obtain ⟨entries, -, -, hconf⟩ := ofText_eq_ok_iff.1 h
    exact ⟨hconf.type.isConcrete, hconf.type.isWritable.exists_written⟩
  · have hget := Run.get_of_find? hfile htext
    refine ⟨fun settings h ↦ ?_, fun f h hf ↦ goesOn_of_isTold (hget.trans h) hf path, ?_⟩
    · rw [GoesOn, Command.run_check, hget.trans h]
    · rw [endsBySettings_check_iff, hget]
      exact exists_congr fun f ↦ ofText_eq_untold_iff

/-- A session with nothing but a settings file. -/
def alone (text : String) : Session where
  files := FileTree.addFile {} [fileName] (.text text)

/-- A number in place of the graph is told, and does not end the checking of another graph. -/
theorem ofText_surfaces_graphNumber :
    ofText (.absolute [fileName]) "[tool.chanflow]\ngraph = 1\n" = .error .graphNotText ∧
      SettingsFault.graphNotText.isTold ∧
      ¬∃ e s', (Command.check (some (.ofText "graph.json"))).run
        (alone "[tool.chanflow]\ngraph = 1\n") = (.error e, s') ∧ Run.EndsBySettings e := by
  obtain ⟨-, -, huntold, hcheck⟩ := ofText_surfaces "[tool.chanflow]\ngraph = 1\n"
  have hread : ofText (.absolute [fileName]) "[tool.chanflow]\ngraph = 1\n" =
      .error .graphNotText := by cbv
  obtain ⟨-, -, hends⟩ := hcheck (alone "[tool.chanflow]\ngraph = 1\n") [fileName]
    (by decide +kernel) (by decide +kernel) (.ofText "graph.json")
  refine ⟨hread, rfl, ?_⟩
  rw [hends]
  rintro ⟨f, hf⟩
  obtain ⟨hread', hf⟩ := (huntold (.absolute [fileName]) f).2 hf
  cases hread.symm.trans hread'
  cases hf

/-- A number in place of the tables of tools is not told, and ends the checking of every graph. -/
theorem ofText_toolsNumber :
    Toml.ofText "tool = 1\n" = .ok [("tool", .integer 1)] ∧
      ofText (.absolute [fileName]) "tool = 1\n" = .error .noTools ∧
      SettingsFault.noTools.isTold = false ∧
      (Command.check (some (.ofText "graph.json"))).run (alone "tool = 1\n") =
        (.error (.crash (.settings .noTools)), (alone "tool = 1\n").tell [""]) := by
  have hread : ofText (.absolute [fileName]) "tool = 1\n" = .error .noTools := by cbv
  have hget : get (alone "tool = 1\n").files (alone "tool = 1\n").folder = .error .noTools :=
    (Run.get_of_find? (by decide +kernel) (by decide +kernel)).trans hread
  refine ⟨by cbv, hread, rfl, ?_⟩
  rw [Command.run_check, hget]
  rfl

end Settings

end ChannelGraph
