import PipelineServer.Compiler.Scanning
import PipelineServer.Protocol.Frame
import PipelineServer.Server.Dispatch

/-!
The life of the server: greeting the client, serving it, and shutting down.
-/

namespace PipelineServer

/-- What the operator asks for; it wins over what the client asks for. -/
structure ServerOptions where
  root : Option Path
  outputDirectory : Option Path
  /-- Where output goes if no one asks for a place. It is deleted in the end. -/
  scratch : Path
deriving DecidableEq, Repr

/-- How the server ended. -/
inductive Ending
  | ok
  /-- A message came at the wrong time, or did not come. -/
  | protocolError
  /-- The request to start could not be understood. -/
  | badStart
  /-- The input was broken. -/
  | inputError
deriving DecidableEq, Repr

/-- What was agreed on when the server was started. -/
structure Agreement where
  root : Option Path
  outputBase : Path
  /-- Whether the output base is the server's own. -/
  ownsOutput : Bool
  classpath : List String
deriving DecidableEq, Repr

/-- How far the server has got. -/
inductive Stage
  /-- Waiting for the request to start. -/
  | waiting
  /-- The request to start has been answered. -/
  | greeted (a : Agreement)
  | serving (a : Agreement) (w : Workspace Scanning.frontend)
  /-- The request to shut down has been answered. -/
  | closing (a : Agreement)
  | ended (ending : Ending)

/-- The server with the file system it works on, and what it does. -/
structure Turn where
  stage : Stage
  disk : FileTree
  outputs : List Output

namespace Server

/-- The workspace root a client gives: its first folder, or else its root. -/
def clientRoot? (s : Params.Start) : Option Path :=
  let folder := s.folders.bind List.head?
  (folder <|> s.rootUri).bind Uri.toPath?

/-- What follows from the operator's and the client's wishes. -/
def agree (options : ServerOptions) (s : Params.Start) : Agreement :=
  let wishes := StartOptions.ofJson s.options
  let requested := options.outputDirectory <|> wishes.outputDirectory.map Path.ofText
  { root := options.root <|> clientRoot? s
    outputBase := requested.getD options.scratch
    ownsOutput := requested.isNone
    classpath := wishes.classpath.getD [] }

/-- A root as it is logged. -/
def showRoot : Option Path → String
  | none => "None"
  | some p => "Some(" ++ Text.quoteBytes p.bytes ++ ")"

/-- Deletes the server's own output. -/
def cleanUp (a : Agreement) (disk : FileTree) : FileTree × List Output :=
  if a.ownsOutput && disk.pathExists a.outputBase then
    match disk.removeTree a.outputBase with
    | (disk, none) => (disk, [.deleted a.outputBase])
    | (disk, some e) =>
        (disk, [.log .warning
          ("Failed to remove output directory " ++ a.outputBase.text ++ ": " ++ e.message)])
  else (disk, [])

/-- Ends a server that has served, after cleaning up. -/
def finish (a : Agreement) (disk : FileTree) (ending : Ending) (outputs : List Output) : Turn :=
  let (disk, cleaned) := cleanUp a disk
  let last := if ending = .ok then [Output.log .info "Language server stopped"] else []
  ⟨.ended ending, disk, outputs ++ cleaned ++ last⟩

/-- The first turn. -/
def start (disk : FileTree) : Turn :=
  ⟨.waiting, disk, [.log .info "Starting nextflow language server"]⟩

/-- Before the client has started the server. -/
def awaitStart (options : ServerOptions) (disk : FileTree) : Incoming → Turn
  | .request id method params =>
      if method = "initialize" then
        match Params.start params with
        | .ok s => ⟨.greeted (agree options s), disk, [.send (.result id Encode.greeting)]⟩
        | .error _ => ⟨.ended .badStart, disk, []⟩
      else
        ⟨.waiting, disk,
          [.send (.failure id notStarted ("expected initialize request, got " ++ method))]⟩
  | .notification method _ =>
      if method = "exit" then ⟨.ended .protocolError, disk, []⟩ else ⟨.waiting, disk, []⟩
  | .response _ => ⟨.ended .protocolError, disk, []⟩

/-- Before the client has confirmed the start. -/
def awaitConfirmation (a : Agreement) (disk : FileTree) : Incoming → Turn
  | .notification "initialized" _ =>
      let w := Workspace.new Scanning.frontend (.new a.outputBase) ⟨a.root, a.classpath⟩
      ⟨.serving a w, disk,
        [.log .info ("Initialized (root: " ++ showRoot a.root ++ ", output: " ++
          a.outputBase.text ++ ")")]⟩
  | _ => ⟨.ended .protocolError, disk, []⟩

/-- While the server runs. -/
def serve (a : Agreement) (w : Workspace Scanning.frontend) (disk : FileTree)
    (message : Incoming) : Turn :=
  match message with
  | .request id "shutdown" _ => ⟨.closing a, disk, [.send (.result id .null)]⟩
  | _ =>
      let handled := w.receive disk message
      ⟨.serving a handled.workspace, handled.disk, handled.outputs⟩

/-- Before the client ends the server. -/
def awaitExit (a : Agreement) (disk : FileTree) (message : Incoming) : Turn :=
  if message.isExit then finish a disk .ok [.log .info "Shutdown requested"]
  else finish a disk .protocolError []

/-- Takes one message. -/
def receive (options : ServerOptions) (stage : Stage) (disk : FileTree) (message : Incoming) :
    Turn :=
  match stage with
  | .waiting => awaitStart options disk message
  | .greeted a => awaitConfirmation a disk message
  | .serving a w => serve a w disk message
  | .closing a => awaitExit a disk message
  | .ended ending => ⟨.ended ending, disk, []⟩

/-- Takes the end of the input; `broken` tells whether it came at the wrong place. -/
def inputEnd (stage : Stage) (disk : FileTree) (broken : Bool) : Turn :=
  match stage with
  | .waiting | .greeted _ => ⟨.ended .protocolError, disk, []⟩
  | .serving a _ => finish a disk (if broken then .inputError else .ok) []
  | .closing a => finish a disk .protocolError []
  | .ended ending => ⟨.ended ending, disk, []⟩

/-- A server in the middle of its input. -/
structure Session where
  turn : Turn
  reader : Frame.Reader
  /-- Whether input is still read. -/
  reading : Bool

/-- Before the first byte. -/
def begin (disk : FileTree) : Session := ⟨start disk, .start, true⟩

/-- Adds a turn behind those before. -/
def Session.goOn (s : Session) (turn : Turn) : Session :=
  { s with turn := { turn with outputs := s.turn.outputs ++ turn.outputs } }

/-- Ends the input of a server that still reads. -/
def Session.close (s : Session) (broken : Bool) : Session :=
  if s.reading then
    { s.goOn (inputEnd s.turn.stage s.turn.disk broken) with reading := false }
  else s

/-- Takes one message. After the message that ends the server nothing is read. -/
def Session.take (options : ServerOptions) (s : Session) (message : Incoming) : Session :=
  let next := s.goOn (receive options s.turn.stage s.turn.disk message)
  if message.isExit then next.close false else next

/-- Takes one byte of input. -/
def Session.feed (options : ServerOptions) (s : Session) (b : UInt8) : Session :=
  if s.reading then
    match Frame.takeByte s.reader b with
    | none => s.close true
    | some (reader, none) => { s with reader := reader }
    | some (reader, some text) =>
        match Incoming.parse? text with
        | some message => ({ s with reader := reader } : Session).take options message
        | none => s.close true
  else s

/-- Takes the end of the input. -/
def Session.finish (s : Session) : Session := s.close (!s.reader.mayEnd)

/-- Runs the server on all of its input. -/
def run (options : ServerOptions) (disk : FileTree) (input : List UInt8) : Turn :=
  ((input.foldl (Session.feed options) (begin disk)).finish).turn

end Server

end PipelineServer
