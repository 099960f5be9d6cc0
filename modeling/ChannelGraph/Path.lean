/-!
# File paths

A path is a list of segments behind a number of slashes: none if it is relative, two if it
starts with exactly two, else one. Empty segments and segments `.` vanish when a path is read,
and so does a slash at the end; segments `..` stay. The path without segments is written `.`
if it is relative.
-/

namespace ChannelGraph

/-- A file path. -/
structure Path where
  /-- How many slashes the path starts with. -/
  slashes : Nat := 0
  /-- The segments. -/
  segments : List String := []
deriving DecidableEq

namespace Path

/-- The slashes that a text starting with the given number of slashes keeps. -/
def keptSlashes (n : Nat) : Nat :=
  if n = 2 then 2 else min n 1

/-- The parts of a text between slashes. -/
def splitSlashes : List Char → List (List Char)
  | [] => [[]]
  | c :: cs =>
    if c = '/' then [] :: splitSlashes cs
    else
      match splitSlashes cs with
      | [] => [[c]]
      | p :: ps => (c :: p) :: ps

/-- Whether a part of a text is a segment of its own. -/
def isSegment (part : String) : Bool :=
  part ≠ "" ∧ part ≠ "."

/-- The path that a text denotes. -/
def ofText (text : String) : Path where
  slashes := keptSlashes (text.toList.takeWhile (· = '/')).length
  segments := ((splitSlashes text.toList).map String.ofList).filter isSegment

/-- The text of a path. -/
def text (p : Path) : String :=
  if p.slashes = 0 ∧ p.segments = [] then "."
  else String.ofList (List.replicate p.slashes '/') ++ "/".intercalate p.segments

/-- Whether a path starts from the root. -/
def isAbsolute (p : Path) : Bool :=
  p.slashes ≠ 0

/-- Whether a path can name a file at all: none holds the character NUL. -/
def isAllowed (p : Path) : Bool :=
  p.segments.all fun s ↦ !s.toList.contains '\x00'

/-- A path seen from a folder. -/
def join (folder p : Path) : Path :=
  if p.isAbsolute then p else { folder with segments := folder.segments ++ p.segments }

/-- The folder of a path: the path without its last segment. -/
def parent (p : Path) : Path :=
  { p with segments := p.segments.dropLast }

/-- The absolute path with the given segments. -/
def absolute (segments : List String) : Path :=
  ⟨1, segments⟩

/-- Follow segments from the folder with the given segments; a segment `..` takes back the one
before it. -/
def follow (folder : List String) (segments : List String) : List String :=
  segments.foldl (fun at' s ↦ if s = ".." then at'.dropLast else at' ++ [s]) folder

/-- The segments from the root of a path that is seen from a folder, without any `..`. -/
def resolve (folder : List String) (p : Path) : List String :=
  follow (if p.isAbsolute then [] else folder) p.segments

end Path

end ChannelGraph
