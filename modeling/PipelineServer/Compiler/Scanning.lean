import PipelineServer.Compiler.Frontend
import PipelineServer.Disk.Sources
import PipelineServer.Source.Balance
import PipelineServer.Source.Extract
import PipelineServer.Text.Utf8

/-!
The frontend that only scans its sources.

It checks delimiters and literals and picks declarations out of the lines. Names and types are not
resolved.
-/

namespace PipelineServer.Scanning

/-- One source of a session. -/
structure SourceUnit where
  path : Path
  /-- The text, or why it could not be read. -/
  text : Except DiskError String
  /-- The declarations of the last compilation. -/
  declarations : List Declaration

/-- A session: the sources by uri, and the messages of the last compilation. -/
structure Session where
  id : SessionId
  config : Config
  outputDirectory : Path
  sources : SortedMap Uri SourceUnit
  messages : List Message

/-- The state of the frontend: where output goes, and how many sessions have been made. -/
structure State where
  outputBase : Path
  made : Nat
deriving DecidableEq, Repr

/-- A frontend that has not made a session. -/
def State.new (outputBase : Path) : State := ⟨outputBase, 0⟩

/-- The current text of a source: that of the open document, or else that of the file. -/
def currentText (disk : FileTree) (documents : DocumentStore) (uri : Uri) (path : Path) :
    Except DiskError String :=
  match documents.text? uri with
  | some text => .ok text
  | none => (disk.read path).map Text.decodeLossy

namespace Session

/-- Takes a source into the session with its current text. -/
def load (disk : FileTree) (documents : DocumentStore) (s : Session) (uri : Uri) (path : Path) :
    Session :=
  { s with sources := s.sources.insert uri ⟨path, currentText disk documents uri path, []⟩ }

/-- Whether a path lies in the workspace of the session. -/
def covers (s : Session) (path : Path) : Bool :=
  match s.config.root with
  | some root => path.startsWith root
  | none => false

/-- Brings one source up to date. An open document is always a source; a file only as long as it
is there and in the workspace. -/
def reload (disk : FileTree) (documents : DocumentStore) (s : Session) (uri : Uri) : Session :=
  match uri.toPath? with
  | none => { s with sources := s.sources.erase uri }
  | some path =>
      if !path.isSource then s
      else if documents.isOpen uri || (s.covers path && disk.isFile path) then
        s.load disk documents uri path
      else { s with sources := s.sources.erase uri }

/-- Takes in the source files of the workspace. -/
def loadRoot (disk : FileTree) (documents : DocumentStore) (s : Session) : Session :=
  match s.config.root with
  | none => s
  | some root =>
      if disk.isDirectory root then
        (disk.sourceFiles root).foldl (fun s path =>
          match Uri.ofPath? path with
          | some uri => s.load disk documents uri path
          | none => s) s
      else s

/-- Takes in an open document that is not a source yet. -/
def loadDocument (disk : FileTree) (documents : DocumentStore) (s : Session) (d : Document) :
    Session :=
  if s.sources.contains d.uri then s
  else
    match d.path? with
    | some path => if path.isSource then s.load disk documents d.uri path else s
    | none => s

/-- Takes in the open documents. -/
def loadDocuments (disk : FileTree) (documents : DocumentStore) (s : Session) : Session :=
  documents.documents.values.foldl (loadDocument disk documents) s

/-- A session with all that the workspace and the editor hold. -/
def build (disk : FileTree) (documents : DocumentStore) (id : SessionId) (config : Config)
    (outputDirectory : Path) : Session :=
  ((Session.mk id config outputDirectory ∅ []).loadRoot disk documents).loadDocuments disk
    documents

end Session

/-- The name of a session's output directory. -/
def outputName (id : SessionId) : FileName :=
  Text.encodeUtf8 ("session-" ++ toString id.number)

/-- Updates the previous session for what changed, or builds the next one. -/
def configure (state : State) (disk : FileTree) (config : Config) (documents : DocumentStore)
    (changed : UriSet) (previous : Option Session) : State × Session :=
  match previous with
  | some session => (state, changed.keys.foldl (Session.reload disk documents) session)
  | none =>
      let id : SessionId := ⟨state.made + 1⟩
      ({ state with made := state.made + 1 },
        Session.build disk documents id config (state.outputBase.join (outputName id)))

/-- The messages about one source. -/
def SourceUnit.check (phase : Phase) (u : SourceUnit) : List Message :=
  match u.text with
  | .ok text => if phase.reaches .parsing then Source.check u.path text else []
  | .error _ => []

/-- The source with its declarations brought up to date. -/
def SourceUnit.declared (phase : Phase) (u : SourceUnit) : SourceUnit :=
  match u.text with
  | .ok text =>
      { u with
        declarations :=
          if phase.reaches .conversion then Source.declarations text.toList else [] }
  | .error _ => { u with declarations := [] }

/-- A source that could not be read, with the reason. -/
def SourceUnit.unreadable? (u : SourceUnit) : Option String :=
  match u.text with
  | .ok _ => none
  | .error e => some (u.path.text ++ " (" ++ e.message ++ ")")

/-- Compiles every source in the order of the uris. Sources that cannot be read do not keep the
others from being compiled. -/
def Session.compile (phase : Phase) (s : Session) : Session × CompileOutcome :=
  let units := s.sources.values
  let messages := units.flatMap (SourceUnit.check phase)
  let unreadable := units.filterMap SourceUnit.unreadable?
  let errors := (messages.filter Message.isSyntaxError).length
  let outcome :=
    if !unreadable.isEmpty then
      .failed (.unexpected ("unable to read " ++ String.intercalate ", " unreadable))
    else if errors = 0 then .finished
    else .failed (.manyErrors errors)
  ({ s with
      sources := s.sources.mapValues fun _ u => u.declared phase
      messages := messages }, outcome)

/-- The declarations of the last compilation. -/
def Session.forest (s : Session) : Forest where
  sources := s.sources.keys
  declarations uri := (s.sources.get? uri).map SourceUnit.declarations

/-- The scanning frontend. -/
def frontend : Frontend where
  State := State
  Session := Session
  configure state disk config documents changed previous :=
    let next := configure state disk config documents changed previous
    (next.1, .ok next.2)
  compile state phase session :=
    let next := session.compile phase
    (state, next.1, next.2)
  id := Session.id
  config := Session.config
  outputDirectory session := some session.outputDirectory
  messages := Session.messages
  forest _ session := session.forest

end PipelineServer.Scanning
