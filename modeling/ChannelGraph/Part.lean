import ChannelGraph.OrderedMap
import ChannelGraph.Positive
import ChannelGraph.TypeExpr.Reading

/-!
# Parts

A part is the computation behind a node: a literal block of code with declared pins, or one
of four fixed patterns. Seen from outside a part is its pins (`Part.pins`), each with a
direction and a declared type, and the imports that it needs (`Part.imports`).

A declared type keeps the text in which it was written together with the tree that the text
denotes, so whoever holds a part knows that all its types can be read. The tree is that of the
empty scope; a node moves it into its own (`DeclaredType.inScope`).
-/

namespace ChannelGraph

/-! ### Pins -/

/-- Whether data enters or leaves a node through a pin. -/
inductive Direction where
  /-- The pin receives from its channel. -/
  | input
  /-- The pin sends on its channel. -/
  | output
deriving DecidableEq

namespace Direction

/-- The word for a direction. -/
def word : Direction → String
  | input => "in"
  | output => "out"

/-- The direction that a word means. -/
def ofWord? : String → Option Direction
  | "in" => some input
  | "out" => some output
  | _ => none

end Direction

/-- A type as it was written, with the tree that it denotes in the empty scope. -/
structure DeclaredType where
  /-- The text as it was written. -/
  text : String
  /-- The tree, with parameters in the empty scope. -/
  tree : TypeExpr
  /-- The text denotes the tree. -/
  reads : TypeExpr.ofText "" text = .ok tree
deriving DecidableEq

namespace DeclaredType

/-- Declare the type that a text denotes, if it denotes one. -/
def ofText (text : String) : Except TypeExpr.Refusal DeclaredType :=
  match h : TypeExpr.ofText "" text with
  | .error r => .error r
  | .ok e => .ok ⟨text, e, h⟩

/-- The declared type with its parameters in the scope of a node. -/
def inScope (d : DeclaredType) (scope : String) : TypeExpr :=
  d.tree.inScope scope

/-- A text that is read as a tree without regard to faults is read as the tree. -/
theorem ofText_of_toOption {text : String} {e : TypeExpr}
    (h : (TypeExpr.ofText "" text).toOption = some e) : TypeExpr.ofText "" text = .ok e := by
  cases hr : TypeExpr.ofText "" text with
  | error r => rw [hr] at h; cases h
  | ok e' => rw [hr] at h; cases h; rfl

/-- The parameter `$T`. -/
def elem : DeclaredType :=
  ⟨"$T", .param ⟨"", "T"⟩, ofText_of_toOption (by decide +kernel)⟩

/-- The slice `[]$T`. -/
def slice : DeclaredType :=
  ⟨"[]$T", .compound "[]" [.param ⟨"", "T"⟩], ofText_of_toOption (by decide +kernel)⟩

/-- The parameter `$In`. -/
def source : DeclaredType :=
  ⟨"$In", .param ⟨"", "In"⟩, ofText_of_toOption (by decide +kernel)⟩

/-- The parameter `$Out`. -/
def target : DeclaredType :=
  ⟨"$Out", .param ⟨"", "Out"⟩, ofText_of_toOption (by decide +kernel)⟩

end DeclaredType

/-- The declared shape of a pin. -/
structure Pin where
  /-- The type of the data that passes. -/
  type : DeclaredType
  /-- Whether the data enters or leaves. -/
  direction : Direction
deriving DecidableEq

/-! ### Parts -/

/-- The kinds of parts. -/
inductive PartKind where
  | code
  | transform
  | broadcast
  | gather
  | unslicer
deriving DecidableEq

namespace PartKind

/-- The word for a kind. -/
def word : PartKind → String
  | code => "code"
  | transform => "transform"
  | broadcast => "broadcast"
  | gather => "gather"
  | unslicer => "unslicer"

/-- The word for a kind in capitals. -/
def heading : PartKind → String
  | code => "CODE"
  | transform => "TRANSFORM"
  | broadcast => "BROADCAST"
  | gather => "GATHER"
  | unslicer => "UNSLICER"

/-- The kind that a word means. -/
def ofWord? : String → Option PartKind
  | "code" => some code
  | "transform" => some transform
  | "broadcast" => some broadcast
  | "gather" => some gather
  | "unslicer" => some unslicer
  | _ => none

/-- The word of a kind is read as this kind. -/
theorem ofWord?_word (k : PartKind) : ofWord? k.word = some k := by
  cases k <;> rfl

end PartKind

/-- A literal block of code. -/
structure CodeBlock where
  /-- The imports that the code needs. -/
  imports : List String := []
  /-- The code in front of the body. -/
  head : String := ""
  /-- The body. -/
  body : String := ""
  /-- The code behind the body. -/
  tail : String := ""
  /-- The declared pins. -/
  pins : OrderedMap String Pin := ∅
deriving DecidableEq

/-- The computation behind a node. -/
inductive Part where
  /-- A literal block of code with declared pins. -/
  | code (block : CodeBlock)
  /-- Code that is applied to every value read, its result being written. -/
  | transform (imports : List String) (body : String)
  /-- Every value read is copied to each of several outputs. -/
  | broadcast (outputs : Positive)
  /-- The values of several inputs are forwarded to one output. -/
  | gather (inputs : Positive)
  /-- The elements of every slice read are written one after the other. -/
  | unslicer
deriving DecidableEq

namespace Part

/-- The kind of a part. -/
def kind : Part → PartKind
  | code _ => .code
  | transform .. => .transform
  | broadcast _ => .broadcast
  | gather _ => .gather
  | unslicer => .unslicer

/-- The name of the pin with a number. -/
def numbered (stem : String) (i : Nat) : String :=
  stem ++ toString i

/-- The pins that a part exposes, by name. -/
def pins : Part → OrderedMap String Pin
  | code block => block.pins
  | transform .. => .ofList [("input", ⟨.source, .input⟩), ("output", ⟨.target, .output⟩)]
  | broadcast n =>
    .ofList (("input", ⟨.elem, .input⟩) ::
      (List.range n).map fun i ↦ (numbered "output" i, ⟨.elem, .output⟩))
  | gather n =>
    .ofList ((List.range n).map (fun i ↦ (numbered "input" i, ⟨.elem, .input⟩)) ++
      [("output", ⟨.elem, .output⟩)])
  | unslicer => .ofList [("input", ⟨.slice, .input⟩), ("output", ⟨.elem, .output⟩)]

/-- The imports that a part needs. -/
def imports : Part → List String
  | code block => block.imports
  | transform imports _ => imports
  | broadcast _ | gather _ | unslicer => []

end Part

end ChannelGraph
