import ChannelGraph.FileTree
import ChannelGraph.Graph.Inference
import ChannelGraph.Toml.Reading

/-!
# Project settings

A project keeps its settings in the section `tool.chanflow` of the file `pyproject.toml`: the
type that parameters get which nothing constrains, and the graph that commands work on if they
are given none. A setting that is absent has its default; a setting that is no text or does
not make sense is a fault, and the type is looked at first.

The settings that count for a folder are those of the nearest such file at or above it.

The section is looked up without asking whether it is a table. A text or an array in its place
stands for a section without settings unless it contains the name of one.
-/

namespace ChannelGraph

/-- The settings of a project. -/
structure Settings where
  /-- The type of parameters that nothing constrains. -/
  defaultType : TypeExpr := ChannelGraph.defaultType
  /-- The graph to work on. -/
  graph : Option Path := none
  /-- The folder of the settings. -/
  projectRoot : Option Path := none
deriving DecidableEq

/-- Why there are no settings. -/
inductive SettingsFault where
  /-- The file is no TOML document. -/
  | notToml (file : Path)
  /-- An integer in the file has too many digits. -/
  | longInteger (digits : Nat)
  /-- The default type is not given as a text. -/
  | typeNotText
  /-- The default type cannot be read. -/
  | badType (text : String) (refusal : TypeExpr.Refusal)
  /-- The default type has parameters. -/
  | openType (text : String)
  /-- The graph is not given as a text. -/
  | graphNotText
  /-- What should hold the section is not a table. -/
  | noTools
  /-- The section is not a table, and looking for a setting in it makes no sense. -/
  | noSection
  /-- The file is not a text. -/
  | notText
deriving DecidableEq

namespace SettingsFault

/-- The name of the section in messages. -/
def sectionName : String :=
  "[tool.chanflow]"

/-- What is said about a fault. -/
def message : SettingsFault → String
  | notToml file => s!"Invalid TOML in {file.text}"
  | longInteger digits =>
    s!"Exceeds the limit ({Numeral.digitLimit} digits) for integer string conversion: " ++
      s!"value has {digits} digits; use sys.set_int_max_str_digits() to increase the limit"
  | typeNotText => s!"Invalid {sectionName}.default-type: expected string"
  | badType text refusal =>
    s!"Invalid {sectionName}.default-type: {TypeExpr.refusalMessage text refusal}"
  | openType text => s!"Invalid {sectionName}.default-type '{text}': must be a concrete type"
  | graphNotText => s!"Invalid {sectionName}.graph: expected string path"
  | noTools => "tool is not a table"
  | noSection => "tool.chanflow is not a table"
  | notText => "settings are not a text"

/-- Whether a fault is one of the settings themselves, of which commands tell. Where the tables
around them are missing or the file cannot be taken in, commands break off. -/
def isTold : SettingsFault → Bool
  | noTools | noSection | notText | longInteger _ => false
  | _ => true

end SettingsFault

namespace Settings

/-- The name of a settings file. -/
def fileName : String :=
  "pyproject.toml"

/-- The key of the default type. -/
def typeKey : String :=
  "default-type"

/-- The key of the graph. -/
def graphKey : String :=
  "graph"

/-! ### Single settings -/

/-- The default type that a value gives. -/
def readType : Toml → Except SettingsFault TypeExpr
  | .string text =>
    match TypeExpr.ofText "" text with
    | .error r => .error (.badType text r)
    | .ok e => if e.isConcrete then .ok e else .error (.openType text)
  | _ => .error .typeNotText

/-- The path that a value gives, seen from the folder of the settings. -/
def readGraph (root : Path) : Toml → Except SettingsFault Path
  | .string text => .ok (root.join (.ofText text))
  | _ => .error .graphNotText

/-- A setting that may be absent. -/
def optional {α : Type} (default : α) (read : Toml → Except SettingsFault α) :
    Option Toml → Except SettingsFault α
  | none => .ok default
  | some v => read v

/-! ### The section -/

/-- Whether one list of characters occurs in another without a gap. -/
def occursIn (word : List Char) : List Char → Bool
  | [] => word.isEmpty
  | c :: cs => word.isPrefixOf (c :: cs) || occursIn word cs

/-- Whether a value in the place of the section contains a name; only texts and arrays can be
asked. -/
def mentions? (name : String) : Toml → Option Bool
  | .string s => some (occursIn name.toList s.toList)
  | .array _ items => some (items.any fun v ↦ match v with | .string s => s == name | _ => false)
  | _ => none

/-- The settings in a section. -/
def ofSection (root : Path) : Toml → Except SettingsFault Settings
  | .table _ entries =>
    match optional ChannelGraph.defaultType readType (Toml.member? typeKey entries) with
    | .error f => .error f
    | .ok type =>
      (optional none (fun v ↦ (readGraph root v).map some) (Toml.member? graphKey entries)).map
        fun graph ↦ ⟨type, graph, some root⟩
  | v =>
    if mentions? typeKey v = some false ∧ mentions? graphKey v = some false then
      .ok { projectRoot := some root }
    else .error .noSection

/-- The settings in a document, for the folder that it is in. -/
def ofEntries (root : Path) (entries : Toml.Entries) : Except SettingsFault Settings :=
  match Toml.member? "tool" entries with
  | none => .ok { projectRoot := some root }
  | some (.table _ tools) =>
    match Toml.member? "chanflow" tools with
    | none => .ok { projectRoot := some root }
    | some v => ofSection root v
  | some _ => .error .noTools

/-- The settings in a file with a text. -/
def ofText (file : Path) (text : String) : Except SettingsFault Settings :=
  match Toml.ofText text with
  | .error .malformed => .error (.notToml file)
  | .error (.longInteger digits) => .error (.longInteger digits)
  | .ok entries => ofEntries file.parent entries

/-! ### Finding settings -/

/-- The settings file that counts for a folder. -/
def find? (files : FileTree) (folder : List String) : Option (List String) :=
  ((FileTree.upward folder).map (· ++ [fileName])).find? files.isFile

/-- The settings in a file. -/
def load (files : FileTree) (file : List String) : Except SettingsFault Settings :=
  match files.entry? file with
  | some (.text content) => ofText (.absolute file) content
  | _ => .error .notText

/-- The settings that count for a folder: the defaults if there is no file of settings. -/
def get (files : FileTree) (folder : List String) : Except SettingsFault Settings :=
  match find? files folder with
  | none => .ok {}
  | some file => load files file

end Settings

end ChannelGraph
