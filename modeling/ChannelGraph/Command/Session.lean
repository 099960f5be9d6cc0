import ChannelGraph.Console.Block
import ChannelGraph.Document.Fault
import ChannelGraph.Graph.Inference
import ChannelGraph.Settings

/-!
# Sessions

What a command works on and what it leaves: the files, the folder in which it runs, and the
lines that it printed, results and messages apart. A command may end before it is through,
with an exit code after it told why, or because it broke off (`Crash`). Whatever it did before
stays.
-/

namespace ChannelGraph

/-- What commands work on. -/
structure Session where
  /-- The files and folders. -/
  files : FileTree := {}
  /-- The working folder, by its segments from the root. -/
  folder : List String := []
  /-- The lines of results. -/
  results : List String := []
  /-- The lines of messages. -/
  messages : List String := []
deriving DecidableEq

/-- Why a command breaks off. -/
inductive Crash where
  /-- What was to be printed is no markup. -/
  | markup (fault : Markup.Fault)
  /-- A file cannot be used. -/
  | file (fault : FileFault)
  /-- The settings cannot be looked up. -/
  | settings (fault : SettingsFault)
  /-- The inference stopped, but not for incompatible types. -/
  | inference (fault : InferenceFault)
  /-- The wiring of the graph is out of order. -/
  | wiring (fault : GraphFault)
  /-- A type cannot be written. -/
  | malformed (fault : Malformed)
  /-- The graph cannot be stored. -/
  | notStored (faults : List Fault)
deriving DecidableEq

namespace Crash

/-- What is said about a crash. -/
def message : Crash → String
  | markup (.unmatched name) => "no open tag: " ++ name
  | markup .nothingOpen => "no open tag"
  | markup (.parameters cs) => "no literal: " ++ String.ofList cs
  | markup .color => "no number in a colour"
  | markup .uncut => "too few graphemes in a line"
  | file fault => fault.message
  | settings fault => fault.message
  | inference fault => fault.message
  | wiring fault => fault.message
  | malformed fault => fault.message
  | notStored faults => "\n".intercalate (faults.map Fault.message)

end Crash

/-- How a command ends before it is through. -/
inductive Ending where
  /-- With an exit code, after telling why. -/
  | exit (code : Nat)
  /-- By breaking off. -/
  | crash (cause : Crash)
deriving DecidableEq

namespace Ending

/-- The exit code of the program. -/
def code : Ending → Nat
  | exit n => n
  | crash _ => 1

end Ending

/-- The steps of a command. -/
abbrev Run (α : Type) :=
  ExceptT Ending (StateM Session) α

namespace Run

variable {α ε : Type}

/-- End with an exit code. -/
def exit (code : Nat) : Run α :=
  throw (.exit code)

/-- Break off. -/
def crash (cause : Crash) : Run α :=
  throw (.crash cause)

/-- Take a result, or break off with the fault. -/
def orCrash (cause : ε → Crash) : Except ε α → Run α
  | .ok a => pure a
  | .error f => crash (cause f)

/-- Print a block among the messages. -/
def say (b : Console.Block) : Run Unit := do
  let lines ← orCrash .markup b.lines
  modify fun s ↦ { s with messages := s.messages ++ lines }

/-- Print a block among the results. -/
def print (b : Console.Block) : Run Unit := do
  let lines ← orCrash .markup b.lines
  modify fun s ↦ { s with results := s.results ++ lines }

/-- Print an empty line among the messages. -/
def sayNothing : Run Unit :=
  say (.verbatim "")

/-- Print markup in a style among the messages. -/
def sayStyled (style : String) (m : Markup) : Run Unit :=
  say (.markup (.styled style m))

end Run

end ChannelGraph
