import ChannelGraph.Proofs.Command.AsText
import ChannelGraph.Proofs.Graph.Loading

/-!
# Arguments in messages

How commands end for all their arguments. Until it writes a graph a command only tells
(`Run.Tells`), so the files and the folder are as they were (`Run.tells_load`). If no bracket in the
arguments opens a tag, whatever it tells can be read (`Run.not_breaksOnMarkup_prune`,
`Run.not_breaksOnMarkup_deleteNode`), and what it writes it also tells of (`Run.goesThrough_prune`,
`Run.goesThrough_deleteNode`), but for lines that cannot be cut. Otherwise it may break off with its
graph written (`Run.run_prune_of_closing`). A node that is not there is never deleted, whatever its
name (`Run.exists_run_deleteNode_of_not_mem`).

`Command.tells_arguments` puts this together with the lines that are taken for their texts.
`Command.deleteNode_closingTag` is a name that is not told although it is escaped. Nothing is said
about reports on types, in which all names come out of files.
-/

namespace ChannelGraph

open Console Markup

namespace Run

variable {given : Option Path} {known : Option Settings} {s : Session}

/-! ### Faults of markup -/

/-- The run broke off over markup, and not just since a line could not be cut. -/
def BreaksOnMarkup (e : Ending) : Prop :=
  ∃ f, f ≠ Markup.Fault.uncut ∧ e = .crash (.markup f)

/-- A command that exits has not broken off over markup. -/
theorem not_breaksOnMarkup_exit (n : Nat) : ¬BreaksOnMarkup (.exit n) := by
  rintro ⟨f, -, h⟩
  cases h

/-- A command that crashed for another cause has not broken off over markup. -/
theorem not_breaksOnMarkup_crash {c : Crash} (h : ∀ f, c ≠ .markup f) :
    ¬BreaksOnMarkup (.crash c) := by
  rintro ⟨f, -, hcrash⟩
  cases hcrash
  exact h f rfl

/-- A line that cannot be cut is set apart. -/
theorem not_breaksOnMarkup_uncut : ¬BreaksOnMarkup (.crash (.markup .uncut)) := by
  rintro ⟨f, hf, h⟩
  cases h
  exact hf rfl

variable {allowed : Ending → Prop}

/-- Markup that can be read is told, or there is a line in it that cannot be cut. -/
theorem tells_say (h : allowed (.crash (.markup .uncut))) {m : Markup}
    (hm : IsReadable m.source.toList) : Tells allowed (say (.markup m)) :=
  .say fun _ hf ↦ hm.eq_uncut hf ▸ h

/-- A panel is always told: its title and its text are no markup. -/
theorem tells_panel (title body : String) : Tells allowed (say (.panel title body)) :=
  .say fun _ hf ↦ by cases hf

/-! ### What loading tells -/

section Loading

variable (h : ∀ e, ¬BreaksOnMarkup e → allowed e)

include h

/-- Looking for settings only tells, and about faults in their file with the text escaped. -/
theorem tells_settings (required : Bool) : Tells allowed (settings required) := by
  have huncut := h _ not_breaksOnMarkup_uncut
  refine .bind .get fun s ↦ ?_
  split
  · exact .pure _
  · split
    · exact .crash (h _ (not_breaksOnMarkup_crash nofun))
    · split
      · have hred : IsPlainStyle "red" := isPlainStyle_of_mem (by decide)
        exact .bind (tells_say huncut (isReadable_styled_ofText hred (by simp) _)) fun _ ↦
          .exit (h _ (not_breaksOnMarkup_exit 2))
      · have hyellow : IsPlainStyle "yellow" := isPlainStyle_of_mem (by decide)
        exact .bind (tells_say huncut (isReadable_styled_ofText hyellow (by simp) _)) fun _ ↦
          .pure _

/-- Finding out which graph is meant only tells. -/
theorem tells_graphPath (given : Option Path) (known : Option Settings) :
    Tells allowed (graphPath given known) := by
  cases given with
  | some path => exact .pure _
  | none =>
    cases known
    case' some settings => refine .bind (.pure settings) fun settings ↦ ?_
    case' none => refine .bind (tells_settings h true) fun settings ↦ ?_
    all_goals
      dsimp only
      split
      · exact .pure _
      · exact .bind (tells_say (h _ not_breaksOnMarkup_uncut) isReadable_noGraphLine) fun _ ↦
          .exit (h _ (not_breaksOnMarkup_exit 2))

/-- Loading from a path tells all there is to tell if the path opens no tag. Nothing is asked of the
path where a run may end in any way. -/
theorem tells_loadFrom {path : Path} (hpath : IsTagFree path.text.toList ∨ ∀ e, allowed e) :
    Tells allowed (loadFrom path) := by
  have hsay {m : Markup} (hm : IsTagFree path.text.toList → IsReadable m.source.toList) :
      Tells allowed (say (.markup m)) := by
    rcases hpath with hpath | hall
    · exact tells_say (h _ not_breaksOnMarkup_uncut) (hm hpath)
    · exact .say fun f _ ↦ hall _
  have hfail (why : String) (details : List String) :
      Tells allowed (failToLoad path why details : Run Graph) :=
    .bind (hsay fun hpath ↦ isReadable_notLoadedLine hpath why) fun _ ↦
      .bind (.forM fun _ ↦ hsay fun _ ↦ isReadable_ofText (by simp) _) fun _ ↦
        .exit (h _ (not_breaksOnMarkup_exit 1))
  refine .bind (hsay isReadable_loadingLine) fun _ ↦ .bind .get fun s ↦ ?_
  split
  · exact .crash (h _ (not_breaksOnMarkup_crash nofun))
  · exact hfail _ _
  · split
    · exact hfail _ _
    · exact .bind (hsay fun _ ↦ isReadable_graphLine _) fun _ ↦ .pure _

end Loading

variable {g : Graph} {output : Path} {node : String} {e : Ending} {s' : Session}

/-- If both of its lines can be told, a graph that is there and has no faults is loaded and told
of. -/
theorem run_loadFrom_of_lines {path : Path} {file : FileEntry} {lines lines' : List String}
    (hloading : (Block.markup (loadingLine path)).lines = .ok lines)
    (hread : s.files.read s.folder path = .ok file) (hparse : parse file = .ok g)
    (hgraph : (Block.markup (graphLine g)).lines = .ok lines') :
    (loadFrom path).run.run s = (.ok g, s.tell (lines ++ lines')) := by
  replace hread : (s.tell lines).files.read (s.tell lines).folder path = .ok file := hread
  rw [loadFrom, run_bind_of_ok (run_say_of_ok hloading s), run_bind_of_ok (run_get _), hread]
  dsimp only
  rw [hparse]
  refine (run_bind_of_ok (run_say_of_ok hgraph _) _).trans ?_
  rw [Session.tell_tell]
  rfl

/-- Loading changes no files, in whichever way it ends. -/
theorem tells_load (given : Option Path) (known : Option Settings) :
    Tells (fun _ ↦ True) (load given known) :=
  .bind (tells_graphPath (fun _ _ ↦ trivial) given known) fun _ ↦
    tells_loadFrom (fun _ _ ↦ trivial) (.inr fun _ ↦ trivial)

/-- A loaded graph leaves files and folder as they were. -/
theorem files_of_run_load (hload : (load given known).run.run s = (.ok g, s')) :
    s'.files = s.files ∧ s'.folder = s.folder := by
  have hfiles := (tells_load given known).files s
  have hfolder := (tells_load given known).folder s
  rw [hload] at hfiles hfolder
  exact ⟨hfiles, hfolder⟩

/-- Loading does not break on markup if the path that is found opens no tag. -/
theorem not_breaksOnMarkup_load (hpath : FindsPath (fun p ↦ IsTagFree p.text.toList) given known s)
    (hrun : (load given known).run.run s = (.error e, s')) : ¬BreaksOnMarkup e := by
  rw [load_eq, run_bind] at hrun
  split at hrun
  · rename_i path s'' hfound
    exact (tells_loadFrom (fun _ ↦ id) (.inl (hpath path s'' hfound))).endsIn hrun
  · rename_i hnone
    cases hrun
    exact (tells_graphPath (fun _ ↦ id) given known).endsIn hnone

/-! ### Commands that load a graph -/

/-- Once a graph has been loaded, it is written first and told of then. -/
theorem run_prune_of_load (hload : (load given none).run.run (s.tell [""]) = (.ok g, s'))
    (output : Path) :
    (prune given output).run.run s =
      (do
        save g output
        say (.panel "Pruned graph" s!"{g.nodes.size} node(s), {g.channels.size} channel(s)")
        say (.markup (writtenLine output)) : Run Unit).run.run s' :=
  (run_bind_of_ok (run_sayNothing s) _).trans (run_bind_of_ok hload _)

/-- Once a graph has been loaded, the node is looked for, and only then is anything written. -/
theorem run_deleteNode_of_load (hload : (load given none).run.run (s.tell [""]) = (.ok g, s'))
    (node : String) (output : Path) (keepChannels : Bool) :
    (deleteNode node given output keepChannels).run.run s =
      (if node ∉ g.nodes then do
        say (.markup (unknownLine node))
        exit 1
      else
        match g.deleteNode node !keepChannels with
        | .error stop => crash (.wiring stop.cause)
        | .ok smaller => do
          (removedChannels g smaller).forM fun name ↦ say (.markup (removedLine name))
          save smaller output
          say (.markup (deletedLine node output)) : Run Unit).run.run s' :=
  (run_bind_of_ok (run_sayNothing s) _).trans (run_bind_of_ok hload _)

/-- A command that loads a graph breaks on markup only if what it does afterwards breaks on it. -/
theorem not_breaksOnMarkup_of_load
    (hpath : FindsPath (fun p ↦ IsTagFree p.text.toList) given none (s.tell [""]))
    {k : Graph → Run Unit} (hk : ∀ g, EndsIn (fun e ↦ ¬BreaksOnMarkup e) (k g))
    (hrun : (sayNothing >>= fun _ ↦ load given none >>= k : Run Unit).run.run s = (.error e, s')) :
    ¬BreaksOnMarkup e := by
  rw [run_bind_of_ok (run_sayNothing s)] at hrun
  rcases hload : (load given none).run.run (s.tell [""]) with ⟨_ | g, s''⟩
  · rw [run_bind_of_error hload] at hrun
    cases hrun
    exact not_breaksOnMarkup_load hpath hload
  · rw [run_bind_of_ok hload] at hrun
    exact hk g hrun

/-- Telling markup that can be read does not break on it. -/
theorem endsIn_say_markup {m : Markup} (hm : IsReadable m.source.toList) :
    EndsIn (fun e ↦ ¬BreaksOnMarkup e) (say (.markup m)) :=
  (tells_say not_breaksOnMarkup_uncut hm).endsIn

/-- Writing a graph tells nothing, so it cannot break on markup. -/
theorem endsIn_save (g : Graph) (path : Path) :
    EndsIn (fun e ↦ ¬BreaksOnMarkup e) (save g path) :=
  .bind (.of_run fun s ↦ ⟨s, s, rfl⟩) fun _ ↦
    .bind (.orCrash fun _ _ ↦ not_breaksOnMarkup_crash nofun) fun _ ↦
      .bind (.orCrash fun _ _ ↦ not_breaksOnMarkup_crash nofun) fun _ ↦
        .of_run fun _ ↦ ⟨(), _, rfl⟩

/-- Writing a graph does not break on markup if the paths open no tag. -/
theorem not_breaksOnMarkup_prune
    (hpath : FindsPath (fun p ↦ IsTagFree p.text.toList) given none (s.tell [""]))
    (houtput : IsTagFree output.text.toList)
    (hrun : (prune given output).run.run s = (.error e, s')) : ¬BreaksOnMarkup e :=
  not_breaksOnMarkup_of_load hpath
    (fun g ↦ .bind (endsIn_save g output) fun _ ↦ .bind (tells_panel _ _).endsIn fun _ ↦
      endsIn_say_markup (isReadable_writtenLine houtput)) hrun

/-- Deleting a node does not break on markup if neither the paths nor the name of the node open a
tag and no bracket in the name is closed in the path. -/
theorem not_breaksOnMarkup_deleteNode {keepChannels : Bool}
    (hpath : FindsPath (fun p ↦ IsTagFree p.text.toList) given none (s.tell [""]))
    (hnode : IsTagFree node.toList) (houtput : IsTagFree output.text.toList)
    (hapart : '[' ∉ node.toList ∨ upToClose? output.text.toList = none)
    (hrun : (deleteNode node given output keepChannels).run.run s = (.error e, s')) :
    ¬BreaksOnMarkup e := by
  refine not_breaksOnMarkup_of_load hpath (fun g ↦ ?_) hrun
  split
  · exact .bind (endsIn_say_markup (isReadable_unknownLine hnode)) fun _ ↦
      .exit (not_breaksOnMarkup_exit 1)
  · split
    · exact .crash (not_breaksOnMarkup_crash nofun)
    · exact .bind (.forM fun name ↦ endsIn_say_markup (isReadable_removedLine name)) fun _ ↦
        .bind (endsIn_save _ output) fun _ ↦
          endsIn_say_markup (isReadable_deletedLine houtput hapart)

/-! ### Saving -/

variable {text : String} {files : FileTree}

/-- If it has a text and the path can be written to, a graph is written and nothing else happens. -/
theorem run_save (htext : g.fileText = .ok text)
    (hwrite : s.files.write s.folder output text = .ok files) :
    (save g output).run.run s = (.ok (), { s with files := files }) := by
  rw [save, htext, run_bind_of_ok (run_get s)]
  change (orCrash .file (s.files.write s.folder output text) >>= _ : Run Unit).run.run s = _
  rw [hwrite]
  rfl

/-- The run broke off since a line could not be cut. -/
def IsUncut (e : Ending) : Prop :=
  e = .crash (.markup .uncut)

theorem isUncut : IsUncut (.crash (.markup .uncut)) :=
  rfl

/-- A run goes through and leaves some files, unless there is a line that cannot be cut. -/
def GoesThrough (files : FileTree) (outcome : Except Ending Unit × Session) : Prop :=
  (outcome.1 = .ok () ∧ outcome.2.files = files) ∨ outcome.1 = .error (.crash (.markup .uncut))

/-- A run that only tells goes through with the files that there are. -/
theorem goesThrough_of_tells {m : Run Unit} (h : Tells IsUncut m)
    (s : Session) : GoesThrough s.files (m.run.run s) := by
  have hfiles := h.files s
  rcases hrun : m.run.run s with ⟨e | _, s'⟩
  · exact .inr (congrArg Except.error (h.endsIn hrun))
  · rw [hrun] at hfiles
    exact .inl ⟨rfl, hfiles⟩

/-- What is left to do once a graph has been loaded and written. -/
theorem run_prune_of_write (hload : (load given none).run.run (s.tell [""]) = (.ok g, s'))
    (htext : g.fileText = .ok text) (hwrite : s.files.write s.folder output text = .ok files) :
    (prune given output).run.run s =
      (do
        say (.panel "Pruned graph" s!"{g.nodes.size} node(s), {g.channels.size} channel(s)")
        say (.markup (writtenLine output)) : Run Unit).run.run { s' with files := files } := by
  obtain ⟨hfiles, hfolder⟩ := files_of_run_load hload
  have hwrite' : s'.files.write s'.folder output text = .ok files := by
    rw [hfiles, hfolder]
    exact hwrite
  rw [run_prune_of_load hload, run_bind_of_ok (run_save htext hwrite')]

/-- A written graph is told of, if the path opens no tag. -/
theorem goesThrough_prune (hload : (load given none).run.run (s.tell [""]) = (.ok g, s'))
    (htext : g.fileText = .ok text) (hwrite : s.files.write s.folder output text = .ok files)
    (houtput : IsTagFree output.text.toList) :
    GoesThrough files ((prune given output).run.run s) := by
  rw [run_prune_of_write hload htext hwrite]
  refine goesThrough_of_tells ?_ { s' with files := files }
  exact .bind (tells_panel _ _) fun _ ↦ tells_say isUncut (isReadable_writtenLine houtput)

/-- A written graph without a node is told of, if neither the name nor the path opens a tag and no
bracket in the name is closed in the path. -/
theorem goesThrough_deleteNode {keepChannels : Bool} {smaller : Graph}
    (hload : (load given none).run.run (s.tell [""]) = (.ok g, s'))
    (hnode : node ∈ g.nodes) (hsmaller : g.deleteNode node (!keepChannels) = .ok smaller)
    (htext : smaller.fileText = .ok text)
    (hwrite : s.files.write s.folder output text = .ok files)
    (houtput : IsTagFree output.text.toList)
    (hapart : '[' ∉ node.toList ∨ upToClose? output.text.toList = none) :
    GoesThrough files ((deleteNode node given output keepChannels).run.run s) := by
  have hremoved : Tells IsUncut ((removedChannels g smaller).forM fun name ↦
      say (.markup (removedLine name))) :=
    .forM fun name ↦ tells_say isUncut (isReadable_removedLine name)
  rw [run_deleteNode_of_load hload, if_neg (not_not_intro hnode), hsmaller]
  dsimp only
  have hfiles := hremoved.files s'
  have hfolder := hremoved.folder s'
  -- The lines about channels come first; only if all of them are told is the graph written.
  rcases hrun : ((removedChannels g smaller).forM fun name ↦
      say (.markup (removedLine name))).run.run s' with ⟨e | _, s''⟩
  · rw [run_bind_of_error hrun]
    exact .inr (congrArg Except.error (hremoved.endsIn hrun))
  · rw [hrun] at hfiles hfolder
    have hwrite' : s''.files.write s''.folder output text = .ok files := by
      rw [hfiles, hfolder, (files_of_run_load hload).1, (files_of_run_load hload).2]
      exact hwrite
    rw [run_bind_of_ok hrun, run_bind_of_ok (run_save htext hwrite')]
    refine goesThrough_of_tells ?_ { s'' with files := files }
    exact tells_say isUncut (isReadable_deletedLine houtput hapart)

/-- A graph that is written to a path with a tag in it that closes the style of the line is not
told of. -/
theorem run_prune_of_closing {front back : List Char}
    (hload : (load given none).run.run (s.tell [""]) = (.ok g, s'))
    (htext : g.fileText = .ok text) (hwrite : s.files.write s.folder output text = .ok files)
    (hfront : ∀ c ∈ front, c ≠ '\\' ∧ c ≠ '[') (hback : ∀ c ∈ back, c ≠ '\\' ∧ c ≠ '[')
    (houtput : output.text.toList = front ++ (closing "green" ++ back)) :
    ∃ s'', (prune given output).run.run s = (.error (.crash (.markup (.unmatched "green"))), s'') ∧
      s''.files = files := by
  have hlines : (Block.markup (writtenLine output)).lines = .error (.unmatched "green") := by
    refine lines_eq_unmatched (isPlainStyle_of_mem (by decide))
      ("✓ Written to ".toList ++ front) back (by simpa using hfront) hback 0 ?_
    rw [source_writtenLine, houtput, List.append_assoc]
    rfl
  rw [run_prune_of_write hload htext hwrite, run_bind_of_ok (run_say_of_ok rfl _), run_say, hlines]
  exact ⟨_, rfl, rfl⟩

/-! ### Unknown nodes -/

/-- Without a node of its name a command tells so and fails. -/
theorem run_deleteNode_of_not_mem (hload : (load given none).run.run (s.tell [""]) = (.ok g, s'))
    (hnode : node ∉ g.nodes) (output : Path) (keepChannels : Bool) :
    (deleteNode node given output keepChannels).run.run s =
      (do say (.markup (unknownLine node)); exit 1 : Run Unit).run.run s' := by
  rw [run_deleteNode_of_load hload, if_pos hnode]

/-- Whether or not the line can be told, the command fails with code 1 and writes nothing. -/
theorem exists_run_deleteNode_of_not_mem
    (hload : (load given none).run.run (s.tell [""]) = (.ok g, s')) (hnode : node ∉ g.nodes)
    (output : Path) (keepChannels : Bool) :
    ∃ e s'', (deleteNode node given output keepChannels).run.run s = (.error e, s'') ∧
      e.code = 1 ∧ s''.files = s.files := by
  have hfiles : s'.files = s.files := (files_of_run_load hload).1.trans rfl
  rw [run_deleteNode_of_not_mem hload hnode, run_bind, run_say]
  cases (Block.markup (unknownLine node)).lines with
  | ok lines => exact ⟨_, _, rfl, rfl, hfiles⟩
  | error f => exact ⟨_, _, rfl, rfl, hfiles⟩

/-- A name that cannot be told breaks the command off. -/
theorem run_deleteNode_of_lines_eq {f : Markup.Fault}
    (hload : (load given none).run.run (s.tell [""]) = (.ok g, s')) (hnode : node ∉ g.nodes)
    (hlines : (Block.markup (unknownLine node)).lines = .error f) (output : Path)
    (keepChannels : Bool) :
    (deleteNode node given output keepChannels).run.run s = (.error (.crash (.markup f)), s') := by
  rw [run_deleteNode_of_not_mem hload hnode, run_bind, run_say, hlines]

end Run

namespace Command

open Run

theorem run_deleteNode (node : String) (given : Option Path) (output : Path) (keepChannels : Bool)
    (s : Session) :
    (deleteNode node given output keepChannels).run s =
      (Run.deleteNode node given output keepChannels).run.run s :=
  rfl

/-- For all arguments, the lines about a path are taken for their texts exactly if no bracket in the
path opens a tag or stands behind a backslash, and if it does not end in a backslash where a closing
tag follows. The line about a graph that is not loaded ends in a reason as well: whatever the reason
is, it has to be taken for itself when it is escaped, as all reasons are that commands give. The
line about a node that is not there is taken for its text, with the name quoted, exactly if no
bracket in the name opens a tag or stands behind a backslash, and if it does not end in a single
backslash. What is taken for a text shows this very text exactly if no name of an emoji in it is
replaced and no control character in it is left out, as happens to texts that are printed without
markup as well. With arguments whose lines are taken for their texts, commands do what they would do
if they told texts.

If no bracket in the arguments opens a tag, no message is refused but for a line that cannot be cut,
and a command that can write its graph ends with it written and told of. A command that deletes a
node that is not there fails and leaves the files alone whatever the name is. -/
theorem tells_arguments (node : String) (given : Option Path) (output : Path)
    (keepChannels : Bool) (s : Session) :
    (∀ (m : Markup) (t : String), m.Displays t →
      (m.plain = .ok t ↔ shownText t.toList = t.toList)) ∧
    (∀ path, (loadingLine path).Displays ("Loading graph from: " ++ path.text) ↔
      IsInert path.text.toList) ∧
    (∀ path why,
      (notLoadedLine path why).Displays ("✗ Could not load " ++ path.text ++ ": " ++ why) ↔
        IsInert path.text.toList ∧ (Markup.ofText why).Displays why) ∧
    (∀ why ∈ reasons, (Markup.ofText why).Displays why) ∧
    ((writtenLine output).Displays ("✓ Written to " ++ output.text) ↔
      IsInert output.text.toList ∧ output.text.toList.getLast? ≠ some '\\') ∧
    ((unknownLine node).Displays ("✗ No node named " ++ Text.quoted node) ↔
      IsInert node.toList ∧ ¬EndsAlone node.toList) ∧
    (∀ known,
      (FindsPath (fun p ↦ IsInert p.text.toList) given known s →
        (load given known).run.run s = (AsText.load given known).run.run s) ∧
      (FindsPath (fun p ↦ IsTagFree p.text.toList) given known s → ∀ e s',
        (load given known).run.run s = (.error e, s') → ¬BreaksOnMarkup e)) ∧
    (FindsPath (fun p ↦ IsInert p.text.toList) given none (s.tell [""]) →
      output.text.toList.getLast? ≠ some '\\' →
      (IsInert output.text.toList →
        (Command.prune given output).run s = (AsText.prune given output).run.run s) ∧
      (IsInert (node ++ ", written to " ++ output.text).toList → ¬EndsAlone node.toList →
        (Command.deleteNode node given output keepChannels).run s =
          (AsText.deleteNode node given output keepChannels).run.run s)) ∧
    (FindsPath (fun p ↦ IsTagFree p.text.toList) given none (s.tell [""]) →
      IsTagFree output.text.toList →
      (∀ e s', (Command.prune given output).run s = (.error e, s') → ¬BreaksOnMarkup e) ∧
      (IsTagFree node.toList → '[' ∉ node.toList ∨ upToClose? output.text.toList = none →
        ∀ e s', (Command.deleteNode node given output keepChannels).run s = (.error e, s') →
          ¬BreaksOnMarkup e)) ∧
    ∀ g s', (load given none).run.run (s.tell [""]) = (.ok g, s') →
      (node ∉ g.nodes →
        (∃ e s'', (Command.deleteNode node given output keepChannels).run s = (.error e, s'') ∧
          e.code = 1 ∧ s''.files = s.files) ∧
        (IsInert node.toList → ¬EndsAlone node.toList →
          (Command.deleteNode node given output keepChannels).run s =
            (do
              AsText.sayText ("✗ No node named " ++ Text.quoted node)
              exit 1 : Run Unit).run.run s')) ∧
      (IsTagFree output.text.toList → ∀ text files,
        s.files.write s.folder output text = .ok files →
        (g.fileText = .ok text → GoesThrough files ((Command.prune given output).run s)) ∧
        ∀ smaller, node ∈ g.nodes → g.deleteNode node (!keepChannels) = .ok smaller →
          smaller.fileText = .ok text →
          '[' ∉ node.toList ∨ upToClose? output.text.toList = none →
          GoesThrough files ((Command.deleteNode node given output keepChannels).run s)) := by
  refine ⟨fun _ _ ↦ Displays.plain_eq_iff, displays_loadingLine_iff, displays_notLoadedLine_iff,
    fun _ ↦ displays_of_mem_reasons, displays_writtenLine_iff output, displays_unknownLine_iff node,
    fun known ↦ ⟨run_load_eq_asText, fun hpath e s' ↦ not_breaksOnMarkup_load hpath⟩,
    fun hpath hlast ↦ ⟨fun houtput ↦ ?_, fun hinert hnode ↦ ?_⟩,
    fun hpath houtput ↦ ⟨fun e s' ↦ ?_, fun hnode hapart e s' ↦ ?_⟩,
    fun g s' hload ↦ ⟨fun hnode ↦ ⟨?_, fun hinert hend ↦ ?_⟩,
      fun houtput text files hwrite ↦ ⟨fun htext ↦ ?_,
        fun smaller hnode hsmaller htext hapart ↦ ?_⟩⟩⟩
  · exact run_prune_eq_asText hpath houtput hlast
  · exact run_deleteNode_eq_asText keepChannels hpath hnode hinert hlast
  · exact not_breaksOnMarkup_prune hpath houtput
  · exact not_breaksOnMarkup_deleteNode hpath hnode houtput hapart
  · exact exists_run_deleteNode_of_not_mem hload hnode output keepChannels
  · rw [← say_eq_sayText ((displays_unknownLine_iff node).2 ⟨hinert, hend⟩)]
    exact run_deleteNode_of_not_mem hload hnode output keepChannels
  · exact goesThrough_prune hload htext hwrite houtput
  · exact goesThrough_deleteNode hload hnode hsmaller htext hwrite houtput hapart

/-- A session with a graph of one node. -/
def onlyNode : Session where
  files := FileTree.addFile {} ["graph.json"] (.text Graph.nilNamedText)

/-- The path of the graph is told. -/
theorem lines_loadingLine_onlyNode :
    (Block.markup (loadingLine (.ofText "graph.json"))).lines =
      .ok ["Loading graph from: graph.json"] := by
  have htext : (Path.ofText "graph.json").text = "graph.json" := by decide +kernel
  have hinert : IsInert "graph.json".toList := isInert_of_not_mem (by decide +kernel)
  have hdisplays := displays_loadingLine_iff (.ofText "graph.json")
  rw [htext] at hdisplays
  exact (hdisplays.2 hinert).lines.trans (by decide +kernel)

/-- Its name is empty, and so nothing is told behind the colon. -/
theorem lines_graphLine_onlyNode :
    (Block.markup (graphLine Graph.nilNamed)).lines = .ok ["Graph: "] := by
  have hname : Markup.escape (if Graph.nilNamed.name.isEmpty then Graph.nilNamed.packageName
      else Graph.nilNamed.name) = "" := by decide +kernel
  have hinert : IsInert "Graph:".toList := isInert_of_not_mem (by simp)
  have hblank : ∀ c ∈ [' '], c ≠ '\\' ∧ c ≠ '[' := by simp
  have hbold : IsPlainStyle "bold" := isPlainStyle_of_mem (by decide)
  have hcyan : IsPlainStyle "cyan" := isPlainStyle_of_mem (by decide)
  have hback := hbold.reads_inStyle hblank isInert_nil nofun reads_nil
  have hline := hcyan.reads_inStyle (List.forall_mem_nil _) hinert (by decide) hback
  have hsource := source_graphLine Graph.nilNamed
  rw [hname, String.toList_empty] at hsource
  rw [List.append_nil, List.nil_append, ← hsource] at hline
  rw [lines_of_reads hline]
  decide +kernel

/-- The graph is loaded with two lines told. -/
theorem run_load_onlyNode :
    (Run.load (some (.ofText "graph.json")) none).run.run (onlyNode.tell [""]) =
      (.ok Graph.nilNamed,
        (onlyNode.tell [""]).tell ["Loading graph from: graph.json", "Graph: "]) := by
  have hread : (onlyNode.tell [""]).files.read (onlyNode.tell [""]).folder (.ofText "graph.json") =
      .ok (.text Graph.nilNamedText) := by decide +kernel
  have hparse : Run.parse (.text Graph.nilNamedText) = .ok Graph.nilNamed := by
    rw [Run.parse, Graph.ofText_nilNamedText]
  rw [load_some]
  exact run_loadFrom_of_lines lines_loadingLine_onlyNode hread hparse lines_graphLine_onlyNode

theorem exists_eq_ok {ε α : Type} {x : Except ε α} (h : x.toOption.isSome) : ∃ a, x = .ok a := by
  cases x with
  | ok a => exact ⟨a, rfl⟩
  | error e => cases h

/-- Anything can be written beside the graph. -/
theorem exists_write_onlyNode (text : String) :
    ∃ files, onlyNode.files.write onlyNode.folder (.ofText "out.json") text = .ok files := by
  have hplace : onlyNode.files.placeAt onlyNode.folder (.ofText "out.json") =
      .ok ([], some "out.json") := by decide +kernel
  have hentry : onlyNode.files.entry? ["out.json"] = none := by decide +kernel
  simp [FileTree.write, hplace, hentry]

/-- A name that means nothing in markup is told as a text, which has no emoji in it and is shown.
What is written is told of. -/
theorem tells_arguments_onlyNode :
    (unknownLine "ghost").plain = .ok ("✗ No node named " ++ Text.quoted "ghost") ∧
    (deleteNode "ghost" (some (.ofText "graph.json")) (.ofText "out.json") false).run onlyNode =
      (do
        AsText.sayText ("✗ No node named " ++ Text.quoted "ghost")
        Run.exit 1 : Run Unit).run.run
          ((onlyNode.tell [""]).tell ["Loading graph from: graph.json", "Graph: "]) ∧
    (prune (some (.ofText "graph.json")) (.ofText "out.json")).run onlyNode =
      (AsText.prune (some (.ofText "graph.json")) (.ofText "out.json")).run.run onlyNode ∧
    (∃ text files, Graph.nilNamed.fileText = .ok text ∧
      onlyNode.files.write onlyNode.folder (.ofText "out.json") text = .ok files ∧
      GoesThrough files
        ((prune (some (.ofText "graph.json")) (.ofText "out.json")).run onlyNode)) ∧
    ∃ smaller text files, Graph.nilNamed.deleteNode "only" true = .ok smaller ∧
      smaller.fileText = .ok text ∧
      onlyNode.files.write onlyNode.folder (.ofText "out.json") text = .ok files ∧
      GoesThrough files
        ((deleteNode "only" (some (.ofText "graph.json")) (.ofText "out.json") false).run
          onlyNode) := by
  have hgraph : IsInert (Path.ofText "graph.json").text.toList :=
    isInert_of_not_mem (by decide +kernel)
  have houtput : IsInert (Path.ofText "out.json").text.toList :=
    isInert_of_not_mem (by decide +kernel)
  have hpath : FindsPath (fun p ↦ IsInert p.text.toList) (some (.ofText "graph.json")) none
      (onlyNode.tell [""]) := findsPath_some hgraph
  have hghost : "ghost" ∉ Graph.nilNamed.nodes ∧ IsInert "ghost".toList ∧
      ¬EndsAlone "ghost".toList := by
    refine ⟨by decide +kernel, isInert_of_not_mem (by simp), ?_⟩
    rintro ⟨front, hfront, -⟩
    have hlast := congrArg List.getLast? hfront
    simp at hlast
  obtain ⟨hplain, -, -, -, -, hghostLine, -, htexts, -, hloaded⟩ :=
    tells_arguments "ghost" (some (.ofText "graph.json")) (.ofText "out.json") false onlyNode
  obtain ⟨-, -, -, -, -, -, -, -, -, hloaded'⟩ :=
    tells_arguments "only" (some (.ofText "graph.json")) (.ofText "out.json") false onlyNode
  obtain ⟨hunknown, hsaved⟩ := hloaded _ _ run_load_onlyNode
  refine ⟨(hplain _ _ (hghostLine.2 hghost.2)).2 (by decide +kernel),
    (hunknown hghost.1).2 hghost.2.1 hghost.2.2,
    (htexts hpath (by decide +kernel)).1 houtput, ?_, ?_⟩
  · obtain ⟨text, htext⟩ := exists_eq_ok (x := Graph.nilNamed.fileText) (by decide +kernel)
    obtain ⟨files, hwrite⟩ := exists_write_onlyNode text
    exact ⟨text, files, htext, hwrite, (hsaved houtput.tagFree text files hwrite).1 htext⟩
  · have hok : ((Graph.nilNamed.deleteNode "only" true).toOption.bind
        (·.fileText.toOption)).isSome := by decide +kernel
    obtain ⟨smaller, hsmaller⟩ := exists_eq_ok (x := Graph.nilNamed.deleteNode "only" true)
      (by decide +kernel)
    rw [hsmaller] at hok
    obtain ⟨text, htext⟩ := exists_eq_ok (x := smaller.fileText) hok
    obtain ⟨files, hwrite⟩ := exists_write_onlyNode text
    exact ⟨smaller, text, files, hsmaller, htext, hwrite,
      ((hloaded' _ _ run_load_onlyNode).2 houtput.tagFree text files hwrite).2 smaller
        (by decide +kernel) hsmaller htext (.inl (by simp))⟩

/-- The name of a node is not told if it is a tag that closes the style of the line. -/
theorem deleteNode_closingTag :
    "[/red]" ∉ Graph.nilNamed.nodes ∧ Text.quoted "[/red]" = "'[/red]'" ∧
    ¬(unknownLine "[/red]").Displays ("✗ No node named " ++ Text.quoted "[/red]") ∧
    (deleteNode "[/red]" (some (.ofText "graph.json")) (.ofText "out.json") false).run onlyNode =
      (.error (.crash (.markup (.unmatched "red"))),
        (onlyNode.tell [""]).tell ["Loading graph from: graph.json", "Graph: "]) := by
  have hquoted : (Text.quoted (Markup.escape "[/red]")).toList =
      '\'' :: (backslashes (2 * 1) ++ (closing "red" ++ ['\''])) := by decide +kernel
  have hlines : (Block.markup (unknownLine "[/red]")).lines = .error (.unmatched "red") := by
    refine lines_eq_unmatched (isPlainStyle_of_mem (by decide))
      ("✗ No node named ".toList ++ ['\'']) ['\''] (by simp) (by simp) 1 ?_
    rw [source_unknownLine, hquoted, List.append_assoc, List.singleton_append]
  have hnode : "[/red]" ∉ Graph.nilNamed.nodes := by decide +kernel
  refine ⟨hnode, by decide +kernel, not_displays_of_lines_eq hlines nofun _, ?_⟩
  rw [run_deleteNode]
  exact run_deleteNode_of_lines_eq run_load_onlyNode hnode hlines _ _

end Command

end ChannelGraph
