import ChannelGraph.Command.Execution

/-!
# The program

Commands are pure: they work on a file tree and leave lines and files. The program looks up
the part of the file system that a command can reach, runs the command on it, prints the lines
and writes the files that the command changed.
-/

namespace ChannelGraph.Program

/-- The file tree with what the file system has at segments from the root. -/
def observe (t : FileTree) (segments : List String) : IO FileTree := do
  let place := (← IO.currentDir) / (Path.absolute segments).text
  if ← place.isDir then return t.addFolder segments
  else if ← place.pathExists then
    let bytes ← IO.FS.readBinFile place
    return t.addFile segments ((String.fromUTF8? bytes).elim .bytes .text)
  else return t

/-- The file tree with everything that a path leads through from a folder. -/
def observeWay (folder : List String) (t : FileTree) (p : Path) : IO FileTree := do
  let start := if p.isAbsolute then [] else folder
  (List.range p.segments.length).foldlM
    (fun t i ↦ observe t (Path.follow start (p.segments.take (i + 1)))) t

/-- The file tree that a command can reach from a folder. -/
def reachable (folder : List String) (c : Command) : IO FileTree := do
  let settingsFiles := (FileTree.upward folder).map (· ++ [Settings.fileName])
  let t ← settingsFiles.foldlM observe (FileTree.addFolder {} folder)
  let t ← c.paths.foldlM (observeWay folder) t
  match Settings.get t folder with
  | .ok settings => settings.graph.toList.foldlM (observeWay folder) t
  | .error _ => return t

/-- Write the files that differ between two file trees. -/
def store (before after : FileTree) : IO Unit :=
  after.entries.entries.forM fun e ↦
    match e.2 with
    | .text content =>
      if before.entries.get? e.1 = some (.text content) then pure ()
      else IO.FS.writeFile (Path.absolute e.1).text content
    | _ => pure ()

/-- Run a command in the working folder. -/
def runCommand (c : Command) : IO UInt32 := do
  let folder := (Path.ofText (← IO.currentDir).toString).resolve []
  let files ← reachable folder c
  let (ending, s) := c.run { files := files, folder := folder }
  store files s.files
  s.messages.forM IO.eprintln
  s.results.forM IO.println
  match ending with
  | .ok _ => return 0
  | .error e =>
    match e with
    | .crash cause => IO.eprintln cause.message
    | .exit _ => pure ()
    return e.code.toUInt32

end ChannelGraph.Program

/-- The command line. -/
def main (args : List String) : IO UInt32 :=
  match ChannelGraph.Command.ofArgs args with
  | .ok c => ChannelGraph.Program.runCommand c
  | .error fault => do
    (ChannelGraph.Command.refusal fault).forM IO.eprintln
    return 2
