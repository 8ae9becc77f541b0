import PipelineServer.Json.Writer
import PipelineServer.Program
import PipelineServer.Server.Reach

/-!
The server on standard input and output and on the real disk.

Before a message is handled, the part of the disk it can depend on is read into a tree. What the
server did to the tree is then done to the disk.
-/

namespace PipelineServer.Main

/-- A path as the operating system takes it. -/
def onDisk (p : Path) := (IO.FS.DirEntry.mk p.text "").root

/-- Whether a path can be given to the operating system: only texts can. -/
def isText (p : Path) : Bool := (Text.decodeUtf8? p.bytes).isSome

/-- The path of a location. -/
def pathOf (loc : Location) : Path := ⟨Path.slash :: [Path.slash].intercalate loc⟩

/-- The location a path names if no link is on the way. -/
def locationOf (working : Location) (p : Path) : Location :=
  p.components.foldl (fun loc step =>
    match step with
    | .root => []
    | .here => loc
    | .up => loc.dropLast
    | .name name => loc ++ [name]) working

/-- Where a path leads to when all links are followed. -/
def realPath? (p : Path) : IO (Option Path) := do
  if !isText p then return none
  match ← (IO.FS.realPath (onDisk p)).toBaseIO with
  | .ok real => return some (Path.ofText real.toString)
  | .error _ => return none

/-- The names in a directory; nothing if it cannot be listed. -/
def names? (p : Path) : IO (Option (List FileName)) := do
  match ← (onDisk p).readDir.toBaseIO with
  | .ok entries => return some (entries.toList.map fun entry => Text.encodeUtf8 entry.fileName)
  | .error _ => return none

/-- What is at a location of the disk. The content of files that are no sources is left out. -/
def entry? (loc : Location) : IO (Option Entry) := do
  let p := pathOf loc
  if !isText p then return none
  match ← (onDisk p).symlinkMetadata.toBaseIO with
  | .error _ => return none
  | .ok found =>
      match found.type with
      | .dir => return some (.directory (← names? p).isNone)
      | .symlink => return some (.link ((← realPath? p).getD (p.join [Path.dot])))
      | .file | .other =>
          if p.isSource then
            match ← (IO.FS.readBinFile (onDisk p)).toBaseIO with
            | .ok bytes => return some (.file bytes.toList false)
            | .error _ => return some (.file [] true)
          else return some (.file [] false)

/-- Takes what is at a location into a tree. -/
def look (tree : FileTree) (loc : Location) : IO FileTree := do
  match ← entry? loc with
  | some entry => return tree.put loc entry
  | none => return tree

/-- Takes a location and all that lie on the way to it into a tree. -/
def lookAlong (tree : FileTree) (loc : Location) : IO FileTree :=
  (List.range loc.length).foldlM (fun tree n => look tree (loc.take (n + 1))) tree

/-- Takes a path into a tree, and the place that its links lead to. -/
def lookAt (tree : FileTree) (p : Path) : IO FileTree := do
  let tree ← lookAlong tree (locationOf tree.working p)
  match ← realPath? p with
  | some real => lookAlong tree (locationOf [] real)
  | none => return tree

/-- Takes all that lies below a location into a tree, at most `depth` levels down and without what
lies in directories of the names in `skipped`. -/
def lookBelow (skipped : List FileName) : Nat → FileTree → Location → IO FileTree
  | 0, tree, _ => return tree
  | depth + 1, tree, loc => do
      let names := (← names? (pathOf loc)).getD []
      names.foldlM (fun tree name => do
        let inside := loc ++ [name]
        let tree ← look tree inside
        match tree.entry? inside with
        | some (.directory false) =>
            if skipped.contains name then return tree else lookBelow skipped depth tree inside
        | _ => return tree) tree

/-- Takes a directory into a tree with what lies below it. -/
def lookThrough (skipped : List FileName) (depth : Nat) (tree : FileTree) (p : Path) :
    IO FileTree := do
  let tree ← lookAt tree p
  match tree.resolve true p with
  | .ok loc => lookBelow skipped depth tree loc
  | .error _ => return tree

/-- How deep output directories are looked into. -/
def outputDepth : Nat := 64

/-- Reads a part of the disk. -/
def snapshot (reach : Reach) : IO FileTree := do
  let working := locationOf [] (Path.ofText (← IO.currentDir).toString)
  let tree ← lookAlong { FileTree.bare with working := working } working
  let tree ← reach.sources.foldlM
    (lookThrough (FileTree.skippedNames.map Text.encodeUtf8) FileTree.searchDepth) tree
  let tree ← reach.outputs.foldlM (lookThrough [] outputDepth) tree
  reach.files.foldlM lookAt tree

/-- Deletes a directory with all it holds; links are not followed. -/
partial def removeAll (p : Path) : IO Unit := do
  match (← (onDisk p).symlinkMetadata).type with
  | .dir =>
      for name in (← names? p).getD [] do
        removeAll (p.join name)
      IO.FS.removeDir (onDisk p)
  | _ => IO.FS.removeFile (onDisk p)

def levelName : Level → String
  | .debug => "DEBG"
  | .info => "INFO"
  | .warning => "WARN"
  | .error => "ERRO"

/-- Does one thing to the world. -/
def perform : Output → IO Unit
  | .send message => do
      let stdout ← IO.getStdout
      stdout.write ⟨(Frame.wrap message.toJson.write).toArray⟩
      stdout.flush
  | .log level text => IO.eprintln (levelName level ++ " " ++ text)
  | .deleted directory => removeAll directory
  | .made directory => if isText directory then IO.FS.createDirAll (onDisk directory) else pure ()

/-- Does what the server has done since the last time. -/
def settle (s : Server.Session) : IO Server.Session := do
  s.turn.outputs.forM perform
  return { s with turn := { s.turn with outputs := [] } }

/-- The server with the part of the disk that it needs for a message. -/
def refresh (s : Server.Session) (message : Option Incoming) : IO Server.Session := do
  return { s with turn := { s.turn with disk := ← snapshot (s.turn.stage.reach message) } }

/-- Takes one byte of input. -/
def takeByte (options : ServerOptions) (s : Server.Session) (b : UInt8) : IO Server.Session := do
  match Frame.takeByte s.reader b with
  | some (_, none) => return s.feed options b
  | some (_, some text) => settle ((← refresh s (Incoming.parse? text)).feed options b)
  | none => settle ((← refresh s none).feed options b)

/-- How many bytes can be waited for at once. -/
def wanted : Frame.Reader → Nat
  | .header _ _ => 1
  | .body _ missing => max 1 (min missing 65536)

/-- Serves until the input or the server ends. -/
partial def serve (options : ServerOptions) (s : Server.Session) : IO Server.Session := do
  match s.turn.stage with
  | .ended _ => return s
  | _ =>
      let bytes ← (← IO.getStdin).read (USize.ofNat (wanted s.reader))
      if bytes.isEmpty then settle (← refresh s none).finish
      else serve options (← bytes.toList.foldlM (takeByte options) s)

/-- A place for output that no one else uses. -/
def scratch : IO Path := do
  let base := (← IO.getEnv "TMPDIR").getD "/tmp"
  return (Path.ofText base).join
    (Text.encodeUtf8 ("nextflow-lsp-" ++ toString (← IO.monoNanosNow)))

end PipelineServer.Main

open PipelineServer in
/-- Serves one client. -/
def main (args : List String) : IO UInt32 := do
  match CommandLine.parse? args with
  | none =>
      IO.eprintln CommandLine.usage
      return 1
  | some request =>
      let options := Program.serverOptions request (← Main.scratch)
      let s ← Main.serve options (← Main.settle (Server.begin .bare))
      return UInt32.ofNat (Program.exitCode s.turn.stage)
