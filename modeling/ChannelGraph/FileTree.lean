import ChannelGraph.OrderedMap
import ChannelGraph.Path

/-!
# File trees

The folders and files that a command works on, by their segments from the root. The root is a
folder without an entry. A path is followed segment by segment, and each segment but the last
has to lead to a folder (`FileTree.folderAt`); a segment `..` leads back. A segment that is too
long is noticed when it is come to, a path that is too long at once.

Reading and writing fail with the reason that stops them. Writing replaces a file or adds one
to a folder that is there.
-/

namespace ChannelGraph

/-- What is found in a folder under a name. -/
inductive FileEntry where
  /-- A folder. -/
  | folder
  /-- A file that holds a text. -/
  | text (content : String)
  /-- A file whose bytes are not a text. -/
  | bytes
deriving DecidableEq

/-- Why a file cannot be read or written. -/
inductive FileFault where
  /-- There is nothing at the path. -/
  | notFound
  /-- There is a folder at the path. -/
  | isFolder
  /-- The path leads through a file. -/
  | notFolder
  /-- The path or one of its segments is too long. -/
  | tooLong
  /-- The path holds a character that no path may hold. -/
  | badPath
deriving DecidableEq

namespace FileFault

/-- What is said about a fault. -/
def message : FileFault → String
  | notFound => "no such file or folder"
  | isFolder => "is a folder"
  | notFolder => "not a folder"
  | tooLong => "name too long"
  | badPath => "no path"

end FileFault

/-- Folders and files by their segments from the root. -/
structure FileTree where
  /-- What is found at the segments. -/
  entries : OrderedMap (List String) FileEntry := ∅
deriving DecidableEq

namespace FileTree

/-- The largest number of bytes that a segment may have. -/
def segmentLimit : Nat :=
  255

/-- The largest number of bytes that a path may have. -/
def pathLimit : Nat :=
  4095

/-- What is found at segments without `..`. -/
def entry? (t : FileTree) (segments : List String) : Option FileEntry :=
  if segments = [] then some .folder else t.entries.get? segments

/-- The folder to which segments lead from a folder. -/
def folderAt (t : FileTree) (folder : List String) : List String → Except FileFault (List String)
  | [] => .ok folder
  | s :: segments =>
    if s = ".." then t.folderAt folder.dropLast segments
    else if segmentLimit < s.utf8ByteSize then .error .tooLong
    else
      match t.entry? (folder ++ [s]) with
      | none => .error .notFound
      | some .folder => t.folderAt (folder ++ [s]) segments
      | some _ => .error .notFolder

/-- The place to which a path leads from a folder: the folder around it with a name in it, or a
folder alone. -/
def placeAt (t : FileTree) (folder : List String) (p : Path) :
    Except FileFault (List String × Option String) :=
  let start := if p.isAbsolute then [] else folder
  match p.segments.getLast? with
  | none => .ok (start, none)
  | some last =>
    if !p.isAllowed then .error .badPath
    else if pathLimit < p.text.utf8ByteSize then .error .tooLong
    else if last = ".." then (t.folderAt start p.segments).map (·, none)
    else
      (t.folderAt start p.segments.dropLast).bind fun around ↦
        if segmentLimit < last.utf8ByteSize then .error .tooLong else .ok (around, some last)

/-- The file at a path that is seen from a folder. -/
def read (t : FileTree) (folder : List String) (p : Path) : Except FileFault FileEntry :=
  match t.placeAt folder p with
  | .error f => .error f
  | .ok (_, none) => .error .isFolder
  | .ok (around, some name) =>
    match t.entry? (around ++ [name]) with
    | none => .error .notFound
    | some .folder => .error .isFolder
    | some file => .ok file

/-- Write a text into the file at a path that is seen from a folder. -/
def write (t : FileTree) (folder : List String) (p : Path) (content : String) :
    Except FileFault FileTree :=
  match t.placeAt folder p with
  | .error f => .error f
  | .ok (_, none) => .error .isFolder
  | .ok (around, some name) =>
    match t.entry? (around ++ [name]) with
    | some .folder => .error .isFolder
    | _ => .ok ⟨t.entries.insert (around ++ [name]) (.text content)⟩

/-- Whether there is a file at segments without `..`. -/
def isFile (t : FileTree) (segments : List String) : Bool :=
  match t.entry? segments with
  | some .folder | none => false
  | some _ => true

/-- The folders at and above segments, the nearest first. -/
def upward (segments : List String) : List (List String) :=
  (List.range (segments.length + 1)).reverse.map segments.take

/-- Add folders down to the given segments. -/
def addFolder (t : FileTree) (segments : List String) : FileTree :=
  (upward segments).foldr
    (fun s t ↦ if (t.entry? s).isSome then t else ⟨t.entries.insert s .folder⟩) t

/-- Add a file together with the folders around it. -/
def addFile (t : FileTree) (segments : List String) (file : FileEntry) : FileTree :=
  ⟨(t.addFolder segments.dropLast).entries.insert segments file⟩

end FileTree

end ChannelGraph
