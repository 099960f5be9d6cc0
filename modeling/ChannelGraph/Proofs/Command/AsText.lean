import ChannelGraph.Proofs.Command.Messages
import ChannelGraph.Proofs.Command.Runs

/-!
# Commands that tell texts

What commands do that take their arguments for text in all they tell about them. For arguments that
mean nothing in markup this is what they do anyway (`Run.run_load_eq_asText`,
`Run.run_prune_eq_asText`, `Run.run_deleteNode_eq_asText`), since a line that displays a text is as
good as the text (`Run.say_eq_sayText`). Only the lines about arguments are texts here; those about
names in files stay markup. The graph to work on may be the one in the settings, so what is asked of
its path is asked of the path that is found (`Run.FindsPath`).
-/

namespace ChannelGraph

open Console Markup

/-! ### Commands that tell texts -/

namespace AsText

variable {α : Type}

/-- Tell a text without markup. -/
def sayText (t : String) : Run Unit :=
  Run.say (.verbatim t)

/-- Tell that a graph could not be loaded. -/
def failToLoad (path : Path) (why : String) (details : List String) : Run α := do
  sayText ("✗ Could not load " ++ path.text ++ ": " ++ why)
  details.forM fun detail ↦ Run.say (.markup (⟨"  • "⟩ ++ .ofText detail))
  Run.exit 1

/-- The graph at a path. -/
def loadFrom (path : Path) : Run Graph := do
  sayText ("Loading graph from: " ++ path.text)
  let s ← get
  match s.files.read s.folder path with
  | .error .badPath => Run.crash (.file .badPath)
  | .error fault => failToLoad path fault.message []
  | .ok file =>
    match Run.parse file with
    | .error faults => failToLoad path "the document has faults" (faults.map Fault.message)
    | .ok graph =>
      Run.say (.markup (Run.graphLine graph))
      return graph

/-- The graph to work on. -/
def load (given : Option Path) (known : Option Settings) : Run Graph := do
  loadFrom (← Run.graphPath given known)

/-- Write a graph as it was loaded. -/
def prune (given : Option Path) (output : Path) : Run Unit := do
  Run.sayNothing
  let graph ← load given none
  Run.save graph output
  Run.say
    (.panel "Pruned graph" s!"{graph.nodes.size} node(s), {graph.channels.size} channel(s)")
  sayText ("✓ Written to " ++ output.text)

/-- Write a graph without a node. -/
def deleteNode (node : String) (given : Option Path) (output : Path) (keepChannels : Bool) :
    Run Unit := do
  Run.sayNothing
  let graph ← load given none
  if node ∉ graph.nodes then
    sayText ("✗ No node named " ++ Text.quoted node)
    Run.exit 1
  else
    match graph.deleteNode node !keepChannels with
    | .error stop => Run.crash (.wiring stop.cause)
    | .ok smaller =>
      (Run.removedChannels graph smaller).forM fun name ↦
        Run.say (.markup (Run.removedLine name))
      Run.save smaller output
      sayText ("✓ Deleted " ++ node ++ ", written to " ++ output.text)

end AsText

namespace Run

variable {α : Type}

/-- Telling a line that is taken for a text is telling the text: the same lines are printed, or both
are refused alike. -/
theorem say_eq_sayText {m : Markup} {t : String} (h : m.Displays t) :
    say (.markup m) = AsText.sayText t := by
  rw [AsText.sayText, say, say, h.lines]

/-- The line about a graph that could not be loaded may be told as a text if the path means
nothing in markup and the escaped reason is taken for the reason. The lines about details stay
markup on both sides. -/
theorem failToLoad_eq_asText {path : Path} (h : IsInert path.text.toList) {why : String}
    (hwhy : (Markup.ofText why).Displays why) (details : List String) :
    (failToLoad path why details : Run α) = AsText.failToLoad path why details := by
  have hline := say_eq_sayText ((displays_notLoadedLine_iff path why).2 ⟨h, hwhy⟩)
  rw [failToLoad, AsText.failToLoad, ← hline]
  rfl

/-- Load the graph at a path. -/
def loadFrom (path : Path) : Run Graph := do
  say (.markup (loadingLine path))
  let s ← get
  match s.files.read s.folder path with
  | .error .badPath => crash (.file .badPath)
  | .error fault => failToLoad path fault.message []
  | .ok file =>
    match parse file with
    | .error faults => failToLoad path "the document has faults" (faults.map Fault.message)
    | .ok graph =>
      say (.markup (graphLine graph))
      return graph

/-- To load a graph is to find out its path and to load what is there. -/
theorem load_eq (given : Option Path) (known : Option Settings) :
    load given known = graphPath given known >>= loadFrom :=
  rfl

theorem load_some (path : Path) (known : Option Settings) :
    load (some path) known = loadFrom path :=
  rfl

/-- From a path that means nothing in markup a graph is loaded as if its path were told as a text,
whether this ends in a graph or in one of the failures. -/
theorem loadFrom_eq_asText {path : Path} (h : IsInert path.text.toList) :
    loadFrom path = AsText.loadFrom path := by
  rw [loadFrom, AsText.loadFrom, say_eq_sayText ((displays_loadingLine_iff path).2 h)]
  refine bind_congr fun _ ↦ bind_congr fun s ↦ ?_
  cases s.files.read s.folder path with
  | error fault =>
    cases fault with
    | badPath => rfl
    | _ => exact failToLoad_eq_asText h (displays_of_mem_reasons (by decide)) []
  | ok file =>
    dsimp only
    cases parse file with
    | error faults => exact failToLoad_eq_asText h (displays_of_mem_reasons (by decide)) _
    | ok graph => rfl

/-- Wherever it comes from, the path of the graph to work on is of some kind. -/
def FindsPath (kind : Path → Prop) (given : Option Path) (known : Option Settings) (s : Session) :
    Prop :=
  ∀ path s', (graphPath given known).run.run s = (.ok path, s') → kind path

variable {given : Option Path} {known : Option Settings} {s : Session}

/-- A path that is given is the one that is found. -/
theorem findsPath_some {kind : Path → Prop} {path : Path} (h : kind path) :
    FindsPath kind (some path) known s := by
  intro path' s' hfound
  cases hfound
  exact h

/-- Loading tells the path that is found, so nothing is asked of a path in the settings that a given
one overrides. -/
theorem run_load_eq_asText (h : FindsPath (fun p ↦ IsInert p.text.toList) given known s) :
    (load given known).run.run s = (AsText.load given known).run.run s := by
  rw [load_eq, AsText.load, run_bind, run_bind]
  split
  · rename_i path s' hpath
    rw [loadFrom_eq_asText (h path s' hpath)]
  · rfl

/-- Writing a graph tells two paths. The one it writes to stands in front of a closing tag and may
not end in a backslash. -/
theorem run_prune_eq_asText {output : Path}
    (h : FindsPath (fun p ↦ IsInert p.text.toList) given none (s.tell [""]))
    (houtput : IsInert output.text.toList) (hlast : output.text.toList.getLast? ≠ some '\\') :
    (prune given output).run.run s = (AsText.prune given output).run.run s := by
  have hwritten := say_eq_sayText ((displays_writtenLine_iff output).2 ⟨houtput, hlast⟩)
  rw [prune, AsText.prune, run_bind, run_bind, run_sayNothing, ← hwritten]
  dsimp only
  rw [run_bind, run_bind, run_load_eq_asText h]
  rfl

/-- Deleting a node tells the name as well, in the same line as the path it writes to. A bracket in
the name may be closed in the path, and so both are asked to be inert together. -/
theorem run_deleteNode_eq_asText {node : String} {output : Path} (keepChannels : Bool)
    (h : FindsPath (fun p ↦ IsInert p.text.toList) given none (s.tell [""]))
    (hnode : ¬EndsAlone node.toList)
    (hinert : IsInert (node ++ ", written to " ++ output.text).toList)
    (hlast : output.text.toList.getLast? ≠ some '\\') :
    (deleteNode node given output keepChannels).run.run s =
      (AsText.deleteNode node given output keepChannels).run.run s := by
  have hname : IsInert node.toList := by
    rw [String.append_assoc, String.toList_append] at hinert
    exact hinert.of_append_right
  have hdeleted := say_eq_sayText (displays_deletedLine hinert hnode hlast)
  have hunknown := say_eq_sayText ((displays_unknownLine_iff node).2 ⟨hname, hnode⟩)
  rw [deleteNode, AsText.deleteNode, run_bind, run_bind, run_sayNothing, ← hdeleted, ← hunknown]
  dsimp only
  rw [run_bind, run_bind, run_load_eq_asText h]
  rfl

end Run

end ChannelGraph
