import ChannelGraph.Path
import ChannelGraph.Text.Similarity

/-!
# Invocations of the command line

What the arguments of the program ask for. In front of the command stand the options of the
program as a whole; the options of a command may stand before, between and behind its
arguments. An option with a value takes the next argument, whatever it looks like, or what
follows an equals sign, or, in its short form, what follows the letter; if it is repeated the
last value counts. Behind `--` everything is an argument, and so is a lone `-`.

Options are known by their full names only. Where the word for the command is none, but options
of the program as a whole, these are looked at before the word is refused, and a command that is
similar to what stands behind them is suggested.
-/

namespace ChannelGraph

/-- What is to be done. -/
inductive Command where
  /-- Infer the types of a graph and report them. -/
  | check (graph : Option Path)
  /-- List the imports that the generated program needs. -/
  | imports (graph : Option Path)
  /-- Write a graph without the channels that have fewer than two pins. -/
  | prune (graph : Option Path) (output : Path)
  /-- Write a graph without a node, and on request with the channels that it leaves. -/
  | deleteNode (node : String) (graph : Option Path) (output : Path) (keepChannels : Bool)
  /-- Tell how the program is used. -/
  | help
deriving DecidableEq

/-- Why arguments do not make a command. -/
inductive UsageFault where
  | missingCommand
  | unknownCommand (name : String)
  | unknownOption (name : String)
  | missingValue (option : String)
  | unexpectedValue (option : String) (suggestions : List String)
  | missingOption (option : String)
  | missingArgument (name : String)
  | unexpectedArgument (text : String)
  | invalidPath (text : String)
deriving DecidableEq

namespace UsageFault

/-- What is said about a fault. -/
def message : UsageFault → String
  | missingCommand => "Missing command."
  | unknownCommand name => s!"No such command '{name}'."
  | unknownOption name => s!"No such option: {name}"
  | missingValue option => s!"Option '{option}' requires an argument."
  | unexpectedValue option suggestions =>
    let whole := s!"Option '{option}' does not take a value."
    if suggestions.isEmpty then whole
    else
      let words := ", ".intercalate (suggestions.map fun w ↦ s!"'{w}'")
      s!"{whole} Did you mean {words}?"
  | missingOption option => s!"Missing option '{option}'."
  | missingArgument name => s!"Missing argument '{name}'."
  | unexpectedArgument text => s!"Got unexpected extra argument ({text})"
  | invalidPath text => s!"Invalid path '{text}'."

/-- Whether the fault is told together with how the program is used; a fault in the value of an
option is told alone. -/
def showsUsage : UsageFault → Bool
  | missingValue _ | unexpectedValue _ _ => false
  | _ => true

end UsageFault

namespace Command

/-! ### Options -/

/-- The kinds of commands. -/
inductive Kind where
  | check
  | imports
  | prune
  | deleteNode
deriving DecidableEq

namespace Kind

/-- The kinds of commands by their words. -/
def table : List (String × Kind) :=
  [("check", check), ("imports", imports), ("prune", prune), ("delete-node", deleteNode)]

/-- The kind of command that a word means. -/
def ofWord? (word : String) : Option Kind :=
  table.lookup word

/-- Whether commands of a kind write a graph. -/
def hasOutput : Kind → Bool
  | prune | deleteNode => true
  | check | imports => false

/-- Whether commands of a kind may be told to keep channels. -/
def hasKeep : Kind → Bool
  | deleteNode => true
  | check | imports | prune => false

end Kind

/-- What the options and arguments of a command say. -/
structure Given where
  /-- The arguments that belong to no option. -/
  arguments : List String := []
  /-- The last output named. -/
  output : Option String := none
  /-- Whether channels are to be kept. -/
  keepChannels : Bool := false
  /-- Whether help is asked for. -/
  help : Bool := false
deriving DecidableEq

/-- What a single argument is. -/
inductive Mark where
  /-- An argument that belongs to no option. -/
  | argument
  /-- The mark behind which everything is an argument. -/
  | rest
  /-- The option for the output with its value. -/
  | output (value : String)
  /-- The option for the output; the value is the next argument. -/
  | outputNext (name : String)
  /-- The option to keep channels. -/
  | keepChannels
  /-- The option that asks for help. -/
  | help
deriving DecidableEq

/-- A long option with what follows its equals sign. -/
def splitEquals (cs : List Char) : String × Option String :=
  let name := String.ofList (cs.takeWhile (· ≠ '='))
  match cs.dropWhile (· ≠ '=') with
  | _ :: value => (name, some (String.ofList value))
  | [] => (name, none)

/-- A mark for an option that takes no value. -/
def flag (mark : Mark) (name : String) : Option String → Except UsageFault Mark
  | none => .ok mark
  | some _ => .error (.unexpectedValue name [])

/-- What a long option is for a kind of command. -/
def longOption (kind : Kind) (cs : List Char) : Except UsageFault Mark :=
  let (name, value) := splitEquals cs
  if name = "--help" then flag .help name value
  else if name = "--keep-channels" ∧ kind.hasKeep then flag .keepChannels name value
  else if name = "--output" ∧ kind.hasOutput then
    match value with
    | some v => .ok (.output v)
    | none => .ok (.outputNext name)
  else .error (.unknownOption name)

/-- What an argument is for a kind of command. -/
def mark (kind : Kind) (text : String) : Except UsageFault Mark :=
  match text.toList with
  | ['-', '-'] => .ok .rest
  | '-' :: '-' :: _ => longOption kind text.toList
  | '-' :: 'o' :: value =>
    if kind.hasOutput then
      .ok (if value.isEmpty then .outputNext "-o" else .output (String.ofList value))
    else .error (.unknownOption "-o")
  | '-' :: c :: _ => .error (.unknownOption (String.ofList ['-', c]))
  | _ => .ok .argument

/-- Collect the options and arguments of a command, behind some that are collected. -/
def collect (kind : Kind) (given : Given) : List String → Except UsageFault Given
  | [] => .ok given
  | text :: texts =>
    match mark kind text with
    | .error f => .error f
    | .ok .argument => collect kind { given with arguments := given.arguments ++ [text] } texts
    | .ok .rest => .ok { given with arguments := given.arguments ++ texts }
    | .ok (.output value) => collect kind { given with output := some value } texts
    | .ok (.outputNext name) =>
      match texts with
      | [] => .error (.missingValue name)
      | value :: texts => collect kind { given with output := some value } texts
    | .ok .keepChannels => collect kind { given with keepChannels := true } texts
    | .ok .help => collect kind { given with help := true } texts

/-! ### Commands -/

/-- The path that a text names. -/
def pathOf (text : String) : Except UsageFault Path :=
  let path := Path.ofText text
  if path.isAllowed then .ok path else .error (.invalidPath text)

/-- The graph that the only argument names, if there is one. -/
def graphOf : List String → Except UsageFault (Option Path)
  | [] => .ok none
  | [text] => (pathOf text).map some
  | _ :: extra :: _ => .error (.unexpectedArgument extra)

/-- The output, which has to be given. -/
def outputOf (given : Given) : Except UsageFault Path :=
  match given.output with
  | none => .error (.missingOption "--output")
  | some text => pathOf text

/-- The command that options and arguments make. -/
def ofGiven (kind : Kind) (given : Given) : Except UsageFault Command :=
  if given.help then .ok .help
  else
    match kind with
    | .check => (graphOf given.arguments).map check
    | .imports => (graphOf given.arguments).map imports
    | .prune => do
      let output ← outputOf given
      let graph ← graphOf given.arguments
      return prune graph output
    | .deleteNode => do
      let output ← outputOf given
      match given.arguments with
      | [] => .error (.missingArgument "NODE")
      | node :: more =>
        let graph ← graphOf more
        return deleteNode node graph output given.keepChannels

/-- The options of the program as a whole. Those that tell how much is logged, and those that set
up the shell, are accepted; nothing is logged or set up. -/
def programOptions : List String :=
  ["--verbose", "--no-verbose", "--install-completion", "--show-completion", "--help"]

/-- Whether the options in front of the command ask for help, and what stands behind them. A fault
comes with what stands behind the option at fault. -/
def leading (help : Bool) : List String → Except (UsageFault × List String) (Bool × List String)
  | [] => .ok (help, [])
  | text :: texts =>
    match text.toList with
    | ['-', '-'] => .ok (help, texts)
    | '-' :: '-' :: _ =>
      let (name, value) := splitEquals text.toList
      if name ∉ programOptions then .error (.unknownOption name, texts)
      else if value.isSome then .error (.unexpectedValue name [], texts)
      else leading (help || name = "--help") texts
    | '-' :: c :: _ => .error (.unknownOption (String.ofList ['-', c]), texts)
    | _ => .ok (help, text :: texts)

/-- What is asked for where the word for the command means none. -/
def ofUnknown (word : String) (texts : List String) : Except UsageFault Command :=
  match leading false (word :: texts) with
  | .error (.unexpectedValue name _, texts) =>
    let suggestions := texts.head?.elim [] fun t ↦ Text.similarWords t (Kind.table.map Prod.fst)
    .error (.unexpectedValue name suggestions)
  | .error (f, _) => .error f
  | .ok (true, _) => .ok .help
  | .ok (false, _) => .error (.unknownCommand word)

/-- The command that the arguments of the program make. -/
def ofArgs (texts : List String) : Except UsageFault Command :=
  match leading false texts with
  | .error (f, _) => .error f
  | .ok (true, _) => .ok .help
  | .ok (false, []) => .error .missingCommand
  | .ok (false, word :: texts) =>
    match Kind.ofWord? word with
    | none => ofUnknown word texts
    | some kind => (collect kind {} texts).bind (ofGiven kind)

end Command

end ChannelGraph
