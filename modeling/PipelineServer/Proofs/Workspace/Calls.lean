import PipelineServer.Proofs.Workspace.Run

/-!
What a workspace asks of its frontend.

A frontend can be made to record the calls made to it. The calls of a cycle are what it records of
that cycle: none if the old output cannot be deleted, one if no session comes of it, and otherwise
one for the session and one to compile it (`Workspace.cycle_course`).
-/

namespace PipelineServer

/-- A call of a frontend: what it was given, and what it answered. -/
inductive Frontend.Call (F : Frontend)
  /-- A session was asked for, with the uris that changed and perhaps a session to keep. -/
  | configured (changed : UriSet) (previous : Option F.Session)
      (answer : Except FrontendError F.Session)
  /-- A session was compiled. -/
  | compiled (before after : F.Session)

/-- The frontend that does what `F` does and records the calls. -/
def Frontend.recording (F : Frontend) : Frontend where
  State := F.State × List F.Call
  Session := F.Session
  configure state disk config documents changed previous :=
    let answer := F.configure state.1 disk config documents changed previous
    ((answer.1, state.2 ++ [.configured changed previous answer.2]), answer.2)
  compile state phase session :=
    let answer := F.compile state.1 phase session
    ((answer.1, state.2 ++ [.compiled session answer.2.1]), answer.2)
  id := F.id
  config := F.config
  outputDirectory := F.outputDirectory
  messages := F.messages
  forest state session := F.forest state.1 session

namespace Workspace

variable {F : Frontend}

/-- The same workspace with a frontend that records, and has recorded nothing yet. -/
def recording (w : Workspace F) : Workspace F.recording where
  config := w.config
  documents := w.documents
  sessions := ⟨(w.sessions.frontend, []), w.sessions.session, w.sessions.state, w.sessions.history⟩
  index := w.index
  snapshot := w.snapshot
  active := w.active

/-- The calls a step has recorded. -/
def recorded (step : Step F.recording) : List F.Call := Prod.snd step.workspace.sessions.frontend

/-- The calls of the frontend that a cycle makes. -/
def cycleCalls (w : Workspace F) (disk : FileTree) (scope : UriSet) : List F.Call :=
  recorded (w.recording.cycle disk scope)

/-- The session that is handed to the frontend, if it may be kept. -/
def handedOn? (w : Workspace F) : Option F.Session :=
  (Manager.handOn w.config w.sessions.session).1

/-- The courses a cycle can take, with the calls it makes. -/
inductive Course (w : Workspace F) (disk : FileTree) (scope : UriSet) (step : Step F) :
    List F.Call → Prop
  /-- The old output cannot be deleted. -/
  | jammed {e : SessionError × FileTree}
      (hpurge : Manager.purge disk w.sessions.outputDirectory? = .error e)
      (habandoned : Abandoned w step) (hdocuments : step.workspace.documents = w.documents)
      (hfrontend : step.workspace.sessions.frontend = w.sessions.frontend) :
      Course w disk scope step []
  /-- The frontend does not come up with a session. -/
  | refused {purged : FileTree} {deleted : Trace} {state : F.State} {e : FrontendError}
      (hpurge : Manager.purge disk w.sessions.outputDirectory? = .ok (purged, deleted))
      (hconfigured : w.configured purged = (state, .error e)) (habandoned : Abandoned w step)
      (hdocuments : step.workspace.documents = w.documents.drained) :
      Course w disk scope step [.configured w.documents.changed w.handedOn? (.error e)]
  | completed {state state' : F.State} {made session : F.Session}
      (h : Completed w scope step (w.cleared disk) state state' made session) :
      Course w disk scope step
        [.configured w.documents.changed w.handedOn? (.ok made), .compiled made session]

theorem handOn_recording (config : Config) (previous : Option F.Session) :
    Manager.handOn (F := F.recording) config previous = Manager.handOn config previous := by
  cases previous with
  | none => rfl
  | some session => rfl

/-- The recording frontend answers what `F` answers. -/
theorem configured_recording {w : Workspace F} {disk : FileTree} {state : F.State}
    {answer : Except FrontendError F.Session} (h : w.configured disk = (state, answer)) :
    w.recording.configured disk =
      ((state, [.configured w.documents.changed w.handedOn? answer]), answer) := by
  have hrecorded : w.recording.configured disk =
      (((w.configured disk).1,
        [.configured w.documents.changed w.handedOn? (w.configured disk).2]),
        (w.configured disk).2) := by
    rw [configured]
    simp only [recording]
    rw [handOn_recording]
    rfl
  rw [hrecorded, h]

/-- If the old output cannot be deleted, nothing is asked of the frontend. -/
theorem cycleCalls_of_purge_error {w : Workspace F} {disk : FileTree}
    {e : SessionError × FileTree}
    (hpurge : Manager.purge disk w.sessions.outputDirectory? = .error e) (scope : UriSet) :
    w.cycleCalls disk scope = [] := by
  rw [cycleCalls, cycle_of_purge_error (w := w.recording) hpurge]
  rfl

/-- Every cycle takes one of the courses, and the calls it makes are those of that course. -/
theorem cycle_course (w : Workspace F) (disk : FileTree) (scope : UriSet) :
    Course w disk scope (w.cycle disk scope) (w.cycleCalls disk scope) := by
  cases hpurge : Manager.purge disk w.sessions.outputDirectory? with
  | error e =>
      rw [cycleCalls_of_purge_error hpurge]
      refine .jammed hpurge (abandoned_of_purge_error hpurge scope) ?_ ?_
      · rw [cycle_of_purge_error hpurge]
      · rw [cycle_of_purge_error hpurge]
        rfl
  | ok result =>
      obtain ⟨purged, deleted⟩ := result
      cases hconfigured : w.configured purged with
      | mk state answer =>
          have hrecording := configured_recording hconfigured
          cases answer with
          | error e =>
              have hcalls : w.cycleCalls disk scope =
                  [.configured w.documents.changed w.handedOn? (.error e)] := by
                rw [cycleCalls, cycle_of_configure_error (w := w.recording) hpurge hrecording]
                rfl
              rw [hcalls]
              refine .refused hpurge hconfigured
                (abandoned_of_configure_error hpurge hconfigured scope) ?_
              rw [cycle_of_configure_error hpurge hconfigured]
          | ok made =>
              obtain ⟨state', session, h⟩ := cycle_completed hpurge hconfigured scope
              obtain ⟨state'', session', h'⟩ :=
                cycle_completed (w := w.recording) hpurge hrecording scope
              obtain ⟨outcome, hcompile⟩ := h.compiled
              obtain ⟨outcome', hcompile'⟩ := h'.compiled
              have hstate : (state', [.configured w.documents.changed w.handedOn? (.ok made),
                  .compiled made session]) = state'' := by
                have hanswer := congrArg Prod.fst hcompile'
                simp only [Frontend.recording, hcompile] at hanswer
                exact hanswer
              have hcalls : w.cycleCalls disk scope =
                  [.configured w.documents.changed w.handedOn? (.ok made),
                    .compiled made session] := by
                rw [cycleCalls, recorded, h'.frontend, ← hstate]
              rw [hcalls]
              exact .completed h

/-- The calls of the frontend that meeting an arrival makes. -/
def calls (w : Workspace F) (a : Arrival) : List F.Call := recorded (w.recording.meet a)

theorem reclassed?_recording (w : Workspace F) (entries : List String) :
    w.recording.reclassed? entries = (w.reclassed? entries).map recording := by
  by_cases hentries : entries = w.config.classpath
  · have hsame : w.reclassed? entries = none := if_pos hentries
    rw [hsame]
    exact if_pos hentries
  · have hother : w.reclassed? entries = some _ := if_neg hentries
    rw [hother]
    exact if_neg hentries

theorem begun?_recording (w : Workspace F) (event : Event) :
    w.recording.begun? event = (w.begun? event).map recording := by
  cases event with
  | edited uri version edits =>
      simp only [begun?, Option.map_map]
      rfl
  | watched uris =>
      simp only [begun?]
      split <;> rfl
  | settings payload =>
      simp only [begun?]
      cases Settings.classpath? payload with
      | none => rfl
      | some entries => exact reclassed?_recording w entries
  | classpath entries => exact reclassed?_recording w entries
  | visited uri =>
      simp only [begun?]
      by_cases haway : w.isAway uri = true
      · rw [if_pos haway]
        exact if_pos haway
      · rw [if_neg haway]
        exact if_neg haway
  | opened uri text version => rfl
  | closed uri => rfl
  | cycle scope => rfl
  | saved uri => rfl
  | root path => rfl

theorem calls_of_begun {w begun : Workspace F} {a : Arrival} (h : w.begun? a.event = some begun) :
    w.calls a = begun.cycleCalls a.disk a.event.scope := by
  have hrecording : w.recording.begun? a.event = some begun.recording := by
    rw [begun?_recording, h]
    rfl
  obtain ⟨active, hworkspace⟩ := (handle_relays hrecording a.disk).workspace
  rw [calls, recorded, meet, hworkspace]
  rfl

theorem calls_of_idle {w : Workspace F} {a : Arrival} (h : w.begun? a.event = none) :
    w.calls a = [] := by
  have hrecording : w.recording.begun? a.event = none := by
    rw [begun?_recording, h]
    rfl
  obtain ⟨trace, -, hidle⟩ := handle_idle hrecording a.disk
  rw [calls, recorded, meet, hidle]
  rfl

end Workspace

end PipelineServer
