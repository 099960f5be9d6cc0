import ChannelGraph.Command.Invocation
import ChannelGraph.Command.Session
import ChannelGraph.Document.Conversion
import ChannelGraph.Graph.Report

/-!
# Running commands

A command loads its graph, does its work and tells about it. The graph is the one it is given
or else the one in the settings, which then have to be in order. Checking reads the settings
in any case, for the default type; if it is given a graph, settings that are out of order are
told of and left aside.

Exit code 1 means that the graph could not be loaded, its types do not agree or it has no such
node, exit code 2 that the command or the settings are wrong. Names of nodes and channels are
shown as text. Paths are put into messages as they are, so a tag in a path is a tag.
-/

namespace ChannelGraph

namespace Run

/-- Tell why and end with an exit code. -/
def fail {α : Type} (code : Nat) (why : Markup) : Run α := do
  sayStyled "red" (⟨"✗ "⟩ ++ why)
  exit code

/-! ### Settings and graphs -/

/-- The settings for the working folder. Faults in them are told of; they end the command if the
settings are required. -/
def settings (required : Bool) : Run Settings := do
  let s ← get
  match Settings.get s.files s.folder with
  | .ok settings => return settings
  | .error fault =>
    if !fault.isTold then crash (.settings fault)
    else if required then fail 2 (.ofText fault.message)
    else
      sayStyled "yellow" (⟨"⚠ Ignoring project settings: "⟩ ++ .ofText fault.message)
      return {}

/-- The path of the graph to work on. -/
def graphPath (given : Option Path) (known : Option Settings) : Run Path := do
  match given with
  | some path => return path
  | none =>
    let settings ← match known with
      | some settings => pure settings
      | none => settings true
    match settings.graph with
    | some path => return path
    | none =>
      fail 2 (⟨"No graph given and no "⟩ ++ .ofText SettingsFault.sectionName ++
        ⟨" graph configured"⟩)

/-- The graph in a file. -/
def parse : FileEntry → Checked Graph
  | .text content => Graph.ofText content
  | _ => Checked.fail .notJson

/-- Tell that a graph could not be loaded. -/
def failToLoad {α : Type} (path : Path) (why : String) (details : List String) : Run α := do
  say (.markup (.styled "red" ⟨s!"✗ Could not load {path.text}:"⟩ ++ ⟨" "⟩ ++ .ofText why))
  details.forM fun detail ↦ say (.markup (⟨"  • "⟩ ++ .ofText detail))
  exit 1

/-- The graph to work on. -/
def load (given : Option Path) (known : Option Settings) : Run Graph := do
  let path ← graphPath given known
  say (.markup (.styled "cyan" ⟨"Loading graph from:"⟩ ++ ⟨" " ++ path.text⟩))
  let s ← get
  match s.files.read s.folder path with
  | .error .badPath => crash (.file .badPath)
  | .error fault => failToLoad path fault.message []
  | .ok file =>
    match parse file with
    | .error faults => failToLoad path "the document has faults" (faults.map Fault.message)
    | .ok graph =>
      let name := if graph.name.isEmpty then graph.packageName else graph.name
      say (.markup (.styled "cyan" ⟨"Graph:"⟩ ++ ⟨" "⟩ ++ .styled "bold" (.ofText name)))
      return graph

/-- Write a graph into a file. -/
def save (g : Graph) (path : Path) : Run Unit := do
  let s ← get
  let text ← orCrash .notStored g.fileText
  let files ← orCrash .file (s.files.write s.folder path text)
  set { s with files := files }

/-! ### Commands -/

/-- Tell that the types of a graph do not agree. -/
def failToInfer {α : Type} (channel : String) (pin : PinRef) (message : String) : Run α := do
  sayNothing
  sayStyled "red" (⟨"✗ "⟩ ++ .ofText InferenceFault.summary)
  say (.markup (⟨"  "⟩ ++ .styled "red" ⟨"•"⟩ ++ ⟨" channel "⟩ ++ .ofText channel ++ ⟨" at pin "⟩ ++
    .ofText pin.text))
  say (.markup (⟨"    "⟩ ++ .styled "dim" (.ofText message)))
  sayNothing
  exit 1

/-- Infer the types of a graph under the settings and report them. -/
def checkWith (settings : Settings) (given : Option Path) : Run Unit := do
  let graph ← load given (some settings)
  sayStyled "cyan" ⟨"Inferring types..."⟩
  match graph.infer settings.defaultType with
  | .error ⟨.incompatible channel pin _ message, _⟩ => failToInfer channel pin message
  | .error stop => crash (.inference stop.cause)
  | .ok graph =>
    sayNothing
    print (← orCrash .malformed graph.channelReport)
    print graph.nodeReport
    sayNothing
    sayStyled "green" ⟨"✓ All types resolved"⟩
    sayNothing

/-- Infer the types of a graph and report them. -/
def check (given : Option Path) : Run Unit := do
  sayNothing
  let settings ← settings given.isNone
  checkWith settings given

/-- List the imports that the generated program needs. -/
def imports (given : Option Path) : Run Unit := do
  let graph ← load given none
  graph.allImports.forM fun line ↦ print (.verbatim line)

/-- Write a graph as it was loaded, that is, without channels that have fewer than two pins. -/
def prune (given : Option Path) (output : Path) : Run Unit := do
  sayNothing
  let graph ← load given none
  save graph output
  say (.panel "Pruned graph" s!"{graph.nodes.size} node(s), {graph.channels.size} channel(s)")
  sayStyled "green" ⟨s!"✓ Written to {output.text}"⟩

/-- The names of the channels that one graph has and another has not, in order. -/
def removedChannels (before after : Graph) : List String :=
  (before.channels.keys.filter (· ∉ after.channels)).mergeSort fun a b ↦ a ≤ b

/-- Write a graph without a node. -/
def deleteNode (node : String) (given : Option Path) (output : Path) (keepChannels : Bool) :
    Run Unit := do
  sayNothing
  let graph ← load given none
  if node ∉ graph.nodes then
    fail 1 ⟨"No node named " ++ Text.quoted (Markup.escape node)⟩
  else
    match graph.deleteNode node !keepChannels with
    | .error stop => crash (.wiring stop.cause)
    | .ok smaller =>
      (removedChannels graph smaller).forM fun name ↦
        say (.markup (⟨"  "⟩ ++ .styled "yellow" ⟨"•"⟩ ++ ⟨" removed channel "⟩ ++ .ofText name))
      save smaller output
      sayStyled "green" (⟨"✓ Deleted "⟩ ++ .ofText node ++ ⟨s!", written to {output.text}"⟩)

end Run

namespace Command

/-- How the program is used. -/
def usage : List String :=
  ["Usage: channelgraph [--verbose | --no-verbose] COMMAND",
    "  check [PATH]",
    "  imports [PATH]",
    "  prune [PATH] --output FILE",
    "  delete-node NODE [PATH] --output FILE [--keep-channels]"]

/-- The lines that tell of arguments that make no command. -/
def refusal (fault : UsageFault) : List String :=
  (if fault.showsUsage then usage else []) ++ Console.panelLines "Error" fault.message

/-- The paths that a command was given. -/
def paths : Command → List Path
  | check graph | imports graph => graph.toList
  | prune graph output | deleteNode _ graph output _ => graph.toList ++ [output]
  | help => []

/-- The steps of a command. -/
def steps : Command → Run Unit
  | check graph => Run.check graph
  | imports graph => Run.imports graph
  | prune graph output => Run.prune graph output
  | deleteNode node graph output keepChannels => Run.deleteNode node graph output keepChannels
  | help => usage.forM fun line ↦ Run.print (.verbatim line)

/-- Run a command in a session: how it ended, if it ended early, and what it left. -/
def run (c : Command) (s : Session) : Except Ending Unit × Session :=
  StateT.run c.steps.run s

end Command

end ChannelGraph
