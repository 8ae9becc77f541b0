import PipelineServer.Workspace.Basic
import PipelineServer.Workspace.Settings

/-!
What the editor tells a workspace.
-/

namespace PipelineServer

/-- Something that happens to a workspace. -/
inductive Event
  | opened (uri : Uri) (text : String) (version : Int)
  | edited (uri : Uri) (version : Int) (edits : List Edit)
  | saved (uri : Uri)
  | closed (uri : Uri)
  /-- Files changed on disk. -/
  | watched (uris : List Uri)
  | settings (payload : Json)
  | classpath (entries : List String)
  | root (path : Option Path)
  /-- A request about a file is about to be answered. -/
  | visited (uri : Uri)
  /-- A cycle is asked for. -/
  | cycle (scope : UriSet)

namespace Workspace

variable {F : Frontend}

def didOpen (w : Workspace F) (disk : FileTree) (uri : Uri) (text : String) (version : Int) :
    Step F :=
  { w with documents := w.documents.openDocument uri text version }.cycleFor disk uri

/-- Edits of a document that is not open are ignored. -/
def didEdit (w : Workspace F) (disk : FileTree) (uri : Uri) (version : Int) (edits : List Edit) :
    Step F :=
  match w.documents.change? uri version edits with
  | some documents => { w with documents := documents }.cycleFor disk uri
  | none =>
      w.idle disk [.log .warning ("Ignoring change to unopened document " ++ uri.text)]

/-- Saving changes nothing that the compiler has not seen before. -/
def didSave (w : Workspace F) (disk : FileTree) (uri : Uri) : Step F :=
  w.idle disk [debugLine ("Saved " ++ uri.text)]

def didClose (w : Workspace F) (disk : FileTree) (uri : Uri) : Step F :=
  { w with documents := w.documents.close uri }.cycleFor disk uri

/-- The files are read again; the active file stays what it is. -/
def didChangeFiles (w : Workspace F) (disk : FileTree) (uris : List Uri) : Step F :=
  if uris.isEmpty then w.idle disk []
  else
    { w with documents := uris.foldl DocumentStore.mark w.documents }.cycle disk
      (SortedSet.ofKeys uris)

/-- A new classpath means a new session, and no file is active any more. -/
def setClasspath (w : Workspace F) (disk : FileTree) (entries : List String) : Step F :=
  if entries = w.config.classpath then w.idle disk []
  else
    let step := { w with config := { w.config with classpath := entries } }.cycle disk ∅
    { step with workspace := { step.workspace with active := none } }.after
      [.log .info
        ("Classpath changed (" ++ toString entries.length ++ " entries), recompiling workspace")]

/-- Settings that are no object are ignored. -/
def didChangeSettings (w : Workspace F) (disk : FileTree) (payload : Json) : Step F :=
  match Settings.classpath? payload with
  | some entries => w.setClasspath disk entries
  | none => w.idle disk [debugLine "Ignoring non-object settings payload"]

/-- A new root takes effect with the next cycle. -/
def setRoot (w : Workspace F) (disk : FileTree) (path : Option Path) : Step F :=
  { w with config := { w.config with root := path } }.idle disk []

/-- Whether another file than `uri` is active. -/
def isAway (w : Workspace F) (uri : Uri) : Bool :=
  match w.active with
  | some active => active != uri
  | none => false

/-- Brings a file up to date before a request about it is answered, if another file is active. -/
def visit (w : Workspace F) (disk : FileTree) (uri : Uri) : Step F :=
  if w.isAway uri then
    ({ w with documents := w.documents.mark uri }.cycleFor disk uri).after
      [debugLine ("Context switched to " ++ uri.text)]
  else w.idle disk []

/-- What an event leads to. -/
def handle (w : Workspace F) (disk : FileTree) : Event → Step F
  | .opened uri text version => w.didOpen disk uri text version
  | .edited uri version edits => w.didEdit disk uri version edits
  | .saved uri => w.didSave disk uri
  | .closed uri => w.didClose disk uri
  | .watched uris => w.didChangeFiles disk uris
  | .settings payload => w.didChangeSettings disk payload
  | .classpath entries => w.setClasspath disk entries
  | .root path => w.setRoot disk path
  | .visited uri => w.visit disk uri
  | .cycle scope => w.cycle disk scope

end Workspace

end PipelineServer
