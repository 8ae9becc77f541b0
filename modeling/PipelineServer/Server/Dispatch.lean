import PipelineServer.Protocol.Encode
import PipelineServer.Protocol.Params
import PipelineServer.Protocol.Rpc
import PipelineServer.Workspace.Requests

/-!
Handling one message of a running server.

Every request gets one answer, after everything that answering it publishes. Messages that cannot be
understood change nothing.
-/

namespace PipelineServer

/-- One thing the server does to the world around it. -/
inductive Output
  | send (message : Outgoing)
  | log (level : Level) (text : String)
  | deleted (directory : Path)
  | made (directory : Path)

namespace Output

/-- Diagnostics are sent as a notification. -/
def ofEffect : Effect → Output
  | .log level text => .log level text
  | .publish uri diagnostics =>
      .send (.notification "textDocument/publishDiagnostics" (Encode.publication uri diagnostics))
  | .deleted directory => .deleted directory
  | .made directory => .made directory

end Output

/-- What handling a message leads to. -/
structure Handled (F : Frontend) where
  workspace : Workspace F
  disk : FileTree
  outputs : List Output

namespace Workspace

variable {F : Frontend}

/-- Answers from the workspace after bringing a file up to date. -/
def answer (w : Workspace F) (disk : FileTree) (id : RequestId) (uri : Uri)
    (reply : Workspace F → Json) : Handled F :=
  let step := w.prepareFor disk uri
  ⟨step.workspace, step.disk,
    step.trace.map Output.ofEffect ++ [.send (.result id (reply step.workspace))]⟩

/-- Answers a request whose parameters `read` understands. -/
def answerWith {α : Type} (w : Workspace F) (disk : FileTree) (id : RequestId) (method : String)
    (params : Params.Read α) (reply : α → Handled F) : Handled F :=
  match params with
  | .ok value => reply value
  | .error reason =>
      ⟨w, disk, [.log .warning ("Invalid " ++ method ++ " params: " ++ reason),
        .send (.failure id invalidParams ("Invalid parameters: " ++ reason))]⟩

/-- Answers a request. -/
def request (w : Workspace F) (disk : FileTree) (id : RequestId) (method : String)
    (params : Json) : Handled F :=
  if method = "textDocument/completion" then
    w.answerWith disk id method (Params.completionPlace params) fun (uri, p) =>
      w.answer disk id uri fun w => Encode.completions (w.completions uri p)
  else if method = "textDocument/hover" then
    w.answerWith disk id method (Params.place params) fun (uri, p) =>
      w.answer disk id uri fun w => Encode.hover (w.hoverAt uri p)
  else if method = "textDocument/documentSymbol" then
    w.answerWith disk id method (Params.outlined params) fun uri =>
      w.answer disk id uri fun w => Encode.outline (w.outlineOf uri)
  else
    ⟨w, disk, [.log .debug ("Unhandled request: " ++ method),
      .send (.failure id methodNotFound ("Method not found: " ++ method))]⟩

/-- The event a notification stands for; nothing for a method that is not known. -/
def event? (method : String) (params : Json) : Option (Params.Read Event) :=
  if method = "textDocument/didOpen" then
    some ((Params.opened params).map fun p => .opened p.uri p.text p.version)
  else if method = "textDocument/didChange" then
    some ((Params.edited params).map fun p => .edited p.uri p.version p.edits)
  else if method = "textDocument/didSave" then
    some ((Params.saved params).map .saved)
  else if method = "textDocument/didClose" then
    some ((Params.closed params).map .closed)
  else if method = "workspace/didChangeWatchedFiles" then
    some ((Params.watched params).map .watched)
  else if method = "workspace/didChangeConfiguration" then
    some ((Params.settings params).map .settings)
  else none

/-- A line about the cycle a notification led to. -/
def reportLine (method : String) (r : Report) : Output :=
  .log .debug (method ++ ": session " ++ r.session.display ++ " (reused: " ++
    (if r.reused then "true" else "false") ++ "), " ++ toString r.errors ++ " error(s), " ++
    toString r.published ++ " file(s) published")

/-- Takes a notification. -/
def notification (w : Workspace F) (disk : FileTree) (method : String) (params : Json) :
    Handled F :=
  match event? method params with
  | none => ⟨w, disk, [.log .debug ("Unhandled notification: " ++ method)]⟩
  | some (.error reason) =>
      ⟨w, disk, [.log .warning ("Malformed " ++ method ++ " notification: " ++ reason)]⟩
  | some (.ok event) =>
      let step := w.handle disk event
      ⟨step.workspace, step.disk,
        step.trace.map Output.ofEffect ++ step.report.toList.map (reportLine method)⟩

/-- Takes any message but the one that ends the server. -/
def receive (w : Workspace F) (disk : FileTree) : Incoming → Handled F
  | .request id method params => w.request disk id method params
  | .notification method params => w.notification disk method params
  | .response id => ⟨w, disk, [.log .debug ("Ignoring response to request " ++ id.display)]⟩

end Workspace

end PipelineServer
