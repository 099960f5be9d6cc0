import ChannelGraph.Document.Fields
import ChannelGraph.Json.Shown
import ChannelGraph.Part

/-!
# Configurations of parts

A document describes a part by the word for its kind and an object that configures it. Each
kind has its own fields, all with defaults; other fields are not allowed. `Part.configure` is
the checked reading, `Part.config` the object written for a part, with all fields in their
order.
-/

namespace ChannelGraph

/-! ### Reading -/

namespace DeclaredType

/-- A declared type, which has to be a text that denotes a type. -/
def check (v : Json) : Checked DeclaredType :=
  (Checked.leaf Lenient.text v).bind fun s ↦
    match ofText s with
    | .ok d => .ok d
    | .error r => Checked.fail (.badType s r)

end DeclaredType

namespace Direction

/-- A direction, which has to be one of the two words. -/
def check : Json → Checked Direction
  | .string s =>
    match ofWord? s with
    | some d => .ok d
    | none => Checked.fail .unknownWord
  | _ => Checked.fail .unknownWord

end Direction

namespace PartKind

/-- The kind that a value is the word for. -/
def ofJson? : Json → Option PartKind
  | .string s => ofWord? s
  | _ => none

/-- A kind of part, which has to be one of its words. -/
def check (v : Json) : Checked PartKind :=
  match ofJson? v with
  | some k => .ok k
  | none => Checked.fail .unknownWord

end PartKind

namespace Pin

/-- A pin of a code block: its type and its direction, and nothing else. -/
def check (v : Json) : Checked Pin :=
  (v.membersOr .notRecord).bind fun members ↦
    let type := Checked.required members "type" DeclaredType.check
    let direction := Checked.required members "dir" Direction.check
    Checked.andCheck (Checked.ap (type.map Pin.mk) direction)
      (Checked.unknownFields members ["type", "dir"])

end Pin

namespace Part

/-- The list of imports among the members of a configuration. -/
def importsField (members : List (String × Json)) : Checked (List String) :=
  Checked.optional members "imports" [] (Checked.list (Checked.leaf Lenient.text))

/-- A field of code among the members of a configuration. -/
def codeField (members : List (String × Json)) (key : String) : Checked String :=
  Checked.optional members key "" (Checked.leaf Lenient.text)

/-- The count of pins among the members of a configuration. -/
def countField (members : List (String × Json)) (key : String) : Checked Positive :=
  Checked.optional members key ⟨2, by decide⟩ (Checked.leaf Lenient.positive)

/-- The block of code that the members of a configuration describe. -/
def codeBlock (members : List (String × Json)) : Checked CodeBlock :=
  let pins := Checked.optional members "pins" ∅ (Checked.table Pin.check)
  Checked.ap (Checked.ap (Checked.ap (Checked.ap ((importsField members).map CodeBlock.mk)
    (codeField members "head")) (codeField members "body")) (codeField members "tail")) pins

/-- The keys that a configuration of a kind may have. -/
def knownKeys : PartKind → List String
  | .code => ["imports", "head", "body", "tail", "pins"]
  | .transform => ["imports", "body"]
  | .broadcast => ["output_num"]
  | .gather => ["input_num"]
  | .unslicer => []

/-- The part of a kind that the members of a configuration describe. -/
def ofMembers (kind : PartKind) (members : List (String × Json)) : Checked Part :=
  match kind with
  | .code => (codeBlock members).map code
  | .transform => Checked.ap ((importsField members).map transform) (codeField members "body")
  | .broadcast => (countField members "output_num").map broadcast
  | .gather => (countField members "input_num").map gather
  | .unslicer => .ok unslicer

/-- The part of a kind with a configuration. -/
def configure (kind : PartKind) (config : Json) : Checked Part :=
  (config.membersOr .notRecord).bind fun members ↦
    Checked.andCheck (ofMembers kind members) (Checked.unknownFields members (knownKeys kind))

/-- Why a word and a configuration do not make a part. -/
inductive Rejected where
  /-- The value is not the word for a kind. -/
  | unknownKind (value : Json)
  /-- The configuration does not fit the kind. -/
  | badConfig (faults : List Fault)

/-- What is said about a value that is not the word for a kind. -/
def unknownKindMessage (value : Json) : String :=
  s!"{value.shown} is not a valid PartType"

/-- The part that a word and a configuration make. The word is looked at first; whatever counts
as blank is an empty configuration. -/
def ofConfig (word config : Json) : Except Rejected Part :=
  match PartKind.ofJson? word with
  | none => .error (.unknownKind word)
  | some kind =>
    (configure kind (if config.isBlank then .object [] else config)).mapError .badConfig

/-! ### Writing -/

/-- A list of texts as an array. -/
def textsJson (texts : List String) : Json :=
  .array (texts.map .string)

/-- The configuration of a pin. -/
def pinConfig (pin : Pin) : Json :=
  .object [("type", .string pin.type.text), ("dir", .string pin.direction.word)]

/-- The configuration of a part. -/
def config : Part → Json
  | code block =>
    .object [("imports", textsJson block.imports), ("head", .string block.head),
      ("body", .string block.body), ("tail", .string block.tail),
      ("pins", .object (block.pins.entries.map fun e ↦ (e.1, pinConfig e.2)))]
  | transform imports body => .object [("imports", textsJson imports), ("body", .string body)]
  | broadcast n => .object [("output_num", .int (n : Nat))]
  | gather n => .object [("input_num", .int (n : Nat))]
  | unslicer => .object []

end Part

end ChannelGraph
