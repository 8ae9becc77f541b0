import PipelineServer.Compiler.Compile
import PipelineServer.Effect
import PipelineServer.Session.Manager
import PipelineServer.Symbols.Index

/-!
A workspace and its compile cycle.

A cycle prepares the session, compiles it, brings the index up to date and publishes what changed
in the diagnostics. The index is made anew with a new session, and otherwise only brought up to
date for the files the cycle is about.
-/

namespace PipelineServer

/-- Everything the server keeps between two messages of the editor. -/
structure Workspace (F : Frontend) where
  config : Config
  documents : DocumentStore
  sessions : Manager F
  index : Index
  snapshot : Snapshot
  /-- The file the user is working in. -/
  active : Option Uri

/-- The outcome of a cycle. -/
structure Report where
  session : SessionId
  reused : Bool
  /-- Messages of the compilation. -/
  errors : Nat
  /-- Files for which something was published. -/
  published : Nat
deriving DecidableEq, Repr

/-- What one operation on a workspace leads to. -/
structure Step (F : Frontend) where
  workspace : Workspace F
  disk : FileTree
  trace : Trace
  report : Option Report

/-- Puts lines in front of what a step logs. -/
def Step.after {F : Frontend} (trace : Trace) (step : Step F) : Step F :=
  { step with trace := trace ++ step.trace }

namespace Workspace

variable {F : Frontend}

/-- A workspace in which nothing has happened. -/
def new (F : Frontend) (frontend : F.State) (config : Config) : Workspace F :=
  ⟨config, .empty, .new F frontend, .empty, ∅, none⟩

/-- An operation that does nothing but log. -/
def idle (w : Workspace F) (disk : FileTree) (trace : Trace) : Step F := ⟨w, disk, trace, none⟩

/-- The messages of a compilation, and a line for the operator if it did not get to its end. -/
def collect : Except CompileFault (List Message) → List Message × Trace
  | .ok messages => (messages, [])
  | .error fault => (fault.collected, [.log .error fault.message])

/-- The index after a compilation. -/
def reindex (index : Index) (forest : Forest) (reused : Bool) (scope : UriSet) : Index :=
  if reused then index.update forest scope else Index.rebuild forest

/-- Lines about errors that no file can be shown for. -/
def skippedLines (messages : List Message) : Trace :=
  (unplaced Uri.ofPath? messages).map fun source =>
    debugLine ("Skipping diagnostic for " ++ source.text ++ ": not a file uri")

/-- Sends diagnostics to the editor, with a line about each file. -/
def sendAll (set : PublishSet) : Trace :=
  set.flatMap fun (uri, diagnostics) =>
    [debugLine ("Publishing " ++ toString diagnostics.length ++ " diagnostic(s) for " ++ uri.text),
      .publish uri diagnostics]

/-- Publishes the diagnostics of a compilation; what was published before and no longer holds is
cleared. -/
def publish (previous : Snapshot) (messages : List Message) : Snapshot × PublishSet × Trace :=
  let current := Snapshot.ofMessages Uri.ofPath? messages
  let set := Snapshot.publishSet previous current
  (current, set, skippedLines messages ++ sendAll set)

/-- Compiles the prepared session and takes over the results. -/
def finishCycle (w : Workspace F) (p : Manager.Prepared F) (session : F.Session) (reused : Bool)
    (scope : UriSet) : Step F :=
  let (frontend, session, result) := compileSession F p.manager.frontend session
  let (messages, faulty) := collect result
  let (snapshot, set, published) := publish w.snapshot messages
  { workspace :=
      { w with
        documents := p.documents
        sessions := { p.manager with frontend := frontend, session := some session }
        index := reindex w.index (F.forest frontend session) reused scope
        snapshot := snapshot }
    disk := p.disk
    trace := p.trace ++ faulty ++ published
    report := some ⟨F.id session, reused, messages.length, set.length⟩ }

/-- Runs one cycle. `scope` are the files for which a kept index is brought up to date. -/
def cycle (w : Workspace F) (disk : FileTree) (scope : UriSet) : Step F :=
  let p := w.sessions.prepare w.config w.documents disk
  match p.session with
  | none =>
      ⟨{ w with sessions := p.manager, documents := p.documents }, p.disk, p.trace, none⟩
  | some (session, reused) => w.finishCycle p session reused scope

/-- Runs a cycle for one file, which becomes the active one. -/
def cycleFor (w : Workspace F) (disk : FileTree) (uri : Uri) : Step F :=
  let step := w.cycle disk (SortedSet.ofKeys [uri])
  { step with workspace := { step.workspace with active := some uri } }

end Workspace

end PipelineServer
