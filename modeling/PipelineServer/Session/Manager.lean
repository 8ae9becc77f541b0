import PipelineServer.Compiler.Frontend
import PipelineServer.Disk.Change
import PipelineServer.Effect
import PipelineServer.Session.State

/-!
Keeping the one live session.

Before every compilation the output of the last one is deleted, and the frontend is asked to update
the session or to make a new one. If either fails, no session is live until it works again.
-/

namespace PipelineServer

/-- Why there is no session, or no place for its output. -/
inductive SessionError
  | purge (path : Path) (reason : String)
  | prepare (path : Path) (reason : String)
  | configure (error : FrontendError)
deriving DecidableEq, Repr

def SessionError.message : SessionError → String
  | .purge path reason => "failed to delete output directory " ++ path.text ++ ": " ++ reason
  | .prepare path reason => "failed to create output directory " ++ path.text ++ ": " ++ reason
  | .configure error => "failed to configure compilation session: " ++ error.message

/-- The frontend with its live session, if there is one, and the record of its life. -/
structure Manager (F : Frontend) where
  frontend : F.State
  session : Option F.Session
  state : SessionState
  history : History

namespace Manager

variable {F : Frontend}

/-- Before the first session. -/
def new (F : Frontend) (frontend : F.State) : Manager F :=
  ⟨frontend, none, .uninitialized, .new History.defaultLimit⟩

/-- Moves to another state. -/
def transition (m : Manager F) (target : SessionState) (event : String) : Manager F × Trace :=
  let t : Transition := ⟨m.state, target, event⟩
  ({ m with state := target, history := m.history.record t },
    [debugLine ("Session: " ++ t.describe)])

/-- Gives up the session because of an error. -/
def fail (m : Manager F) (error : SessionError) (event : String) : Manager F × Trace :=
  let (m, trace) := transition { m with session := none } (.unusable error.message) event
  (m, .log .error error.message :: trace)

/-- The output directory of the live session. -/
def outputDirectory? (m : Manager F) : Option Path := m.session.bind F.outputDirectory

/-- Deletes a directory if it is there. A failure comes with the disk it leaves. -/
def purge (disk : FileTree) (dir : Option Path) :
    Except (SessionError × FileTree) (FileTree × Trace) :=
  match dir with
  | none => .ok (disk, [])
  | some dir =>
      if disk.pathExists dir then
        match disk.removeTree dir with
        | (disk, none) => .ok (disk, [.deleted dir])
        | (disk, some e) => .error (.purge dir e.message, disk)
      else .ok (disk, [])

/-- Makes the output directory of a session. That it cannot be made is only worth a warning. -/
def makeOutput (disk : FileTree) (dir : Option Path) : FileTree × Trace :=
  match dir with
  | none => (disk, [])
  | some dir =>
      match disk.makeDirectories dir with
      | (disk, none) => (disk, [.made dir])
      | (disk, some e) =>
          (disk, [.log .warning (SessionError.prepare dir e.message).message])

/-- Records that the session `current` is live after `previous`, with `changed` changed files. -/
def recordOutcome (m : Manager F) (previous : Option SessionId) (current : SessionId)
    (changed : Nat) : Manager F × Trace :=
  if previous = some current then
    m.transition (.active current true) (toString changed ++ " changed file(s)")
  else
    match previous with
    | some old =>
        let (m, first) := m.transition (.replaced old current) "session recreated"
        let (m, second) := m.transition (.active current false) "session built"
        (m, first ++ second)
    | none => m.transition (.active current false) "session built"

/-- The previous session, if it may be handed on: it must have been built from the same
configuration. -/
def handOn (config : Config) (previous : Option F.Session) : Option F.Session × Trace :=
  match previous with
  | none => (none, [])
  | some session =>
      if (F.config session).same config then (some session, [])
      else
        (none, [debugLine ("Configuration changed, dropping session " ++ (F.id session).display)])

/-- What preparing a session leads to. -/
structure Prepared (F : Frontend) where
  manager : Manager F
  documents : DocumentStore
  disk : FileTree
  trace : Trace
  /-- The live session and whether it is the one from before. -/
  session : Option (F.Session × Bool)

/-- Prepares the session for a compilation.

The output of the last one is deleted first. If that fails, the session is given up and the changes
stay marked. Otherwise the changes are handed to the frontend, together with the session if the
configuration is still the same. -/
def prepare (m : Manager F) (config : Config) (documents : DocumentStore) (disk : FileTree) :
    Prepared F :=
  match purge disk m.outputDirectory? with
  | .error (e, disk) =>
      let (m, trace) := m.fail e "purge failed"
      ⟨m, documents, disk, trace, none⟩
  | .ok (disk, purged) =>
      let (previous, dropped) := handOn config m.session
      let (frontend, result) :=
        F.configure m.frontend disk config documents.drained documents.changed previous
      let waiting : Manager F := { m with frontend := frontend, session := none }
      match result with
      | .error e =>
          let (m, trace) := waiting.fail (.configure e) "configure failed"
          ⟨m, documents.drained, disk, purged ++ dropped ++ trace, none⟩
      | .ok session =>
          let (disk, made) := makeOutput disk (F.outputDirectory session)
          let before := m.session.map F.id
          let (m, recorded) := waiting.recordOutcome before (F.id session) documents.changed.size
          ⟨{ m with session := some session }, documents.drained, disk,
            purged ++ dropped ++ made ++ recorded,
            some (session, before == some (F.id session))⟩

end Manager

end PipelineServer
