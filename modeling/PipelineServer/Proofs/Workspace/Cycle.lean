import PipelineServer.Proofs.Session.Manager
import PipelineServer.Proofs.SortedMap
import PipelineServer.Workspace.Events

/-!
What one cycle can do to a workspace, whatever the frontend.

A cycle is either abandoned, because the old output could not be deleted or the frontend refused to
make a session, or it completes: the frontend's session is compiled, and index and diagnostics
follow from that session. `Workspace.cycle_cases` says so once and for all.
-/

namespace PipelineServer

variable {F : Frontend}

namespace Workspace

/-- The disk on which the next session is prepared: the output of the live one is gone. -/
def cleared (w : Workspace F) (disk : FileTree) : FileTree :=
  match Manager.purge disk w.sessions.outputDirectory? with
  | .ok (purged, _) => purged
  | .error _ => disk

/-- What the frontend answers when it is asked for the session of the next compilation. -/
def configured (w : Workspace F) (disk : FileTree) : F.State × Except FrontendError F.Session :=
  F.configure w.sessions.frontend disk w.config w.documents.drained w.documents.changed
    (Manager.handOn w.config w.sessions.session).1

/-- Whether `session` has the identity of the live session. -/
def reuses (w : Workspace F) (session : F.Session) : Bool :=
  w.sessions.session.map F.id == some (F.id session)

theorem reuses_iff {w : Workspace F} {made : F.Session} :
    w.reuses made = true ↔
      ∃ session, w.sessions.session = some session ∧ F.id session = F.id made := by
  rw [reuses, beq_iff_eq, Option.map_eq_some_iff]

/-- A cycle that came to nothing: no session is live, and neither the index nor anything the editor
has seen is touched. -/
structure Abandoned (w : Workspace F) (step : Step F) : Prop where
  report : step.report = none
  published : step.trace.published = []
  session : step.workspace.sessions.session = none
  documents : step.workspace.documents.documents = w.documents.documents
  config : step.workspace.config = w.config
  index : step.workspace.index = w.index
  snapshot : step.workspace.snapshot = w.snapshot

/-- A cycle that went through: on the disk `purged`, the frontend came up with the session `made`
and moved to `state`; compiling it led to `state'` and `session`, from which all that is kept
follows. -/
structure Completed (w : Workspace F) (scope : UriSet) (step : Step F) (purged : FileTree)
    (state state' : F.State) (made session : F.Session) : Prop where
  configured : w.configured purged = (state, .ok made)
  compiled : ∃ outcome, F.compile state .boundary made = (state', session, outcome)
  frontend : step.workspace.sessions.frontend = state'
  live : step.workspace.sessions.session = some session
  documents : step.workspace.documents = w.documents.drained
  config : step.workspace.config = w.config
  index : step.workspace.index =
    reindex w.index (F.forest state' session) (w.reuses made) scope
  snapshot : step.workspace.snapshot = Snapshot.ofMessages Uri.ofPath? (F.messages session)
  published : step.trace.published = Snapshot.publishSet w.snapshot step.workspace.snapshot
  report : step.report =
    some ⟨F.id session, w.reuses made, (F.messages session).length, step.trace.published.length⟩

/-- However a compilation ends, its messages are those the session has collected. -/
theorem collect_judge (outcome : CompileOutcome) (messages : List Message) :
    (collect (judge outcome messages)).1 = messages ∧
      (collect (judge outcome messages)).2.published = [] := by
  unfold judge
  split <;> exact ⟨rfl, rfl⟩

@[simp] theorem skippedLines_published (messages : List Message) :
    (skippedLines messages).published = [] := by
  unfold skippedLines
  induction unplaced Uri.ofPath? messages with
  | nil => rfl
  | cons source rest ih => exact ih

@[simp] theorem sendAll_published (set : PublishSet) : (sendAll set).published = set := by
  induction set with
  | nil => rfl
  | cons entry rest ih =>
      have hrest : Trace.published (sendAll (entry :: rest)) =
          entry :: Trace.published (sendAll rest) := rfl
      rw [hrest, ih]

/-- Compiling a prepared session completes the cycle. -/
theorem finishCycle_completed {w : Workspace F} {p : Manager.Prepared F} {purged : FileTree}
    {state : F.State} {made : F.Session} (hconfigured : w.configured purged = (state, .ok made))
    (hfrontend : p.manager.frontend = state) (hdocuments : p.documents = w.documents.drained)
    (htrace : p.trace.published = []) (scope : UriSet) :
    ∃ state' session, Completed w scope (w.finishCycle p made (w.reuses made) scope) purged
      state state' made session := by
  subst hfrontend
  cases hcompile : F.compile p.manager.frontend .boundary made with
  | mk state' compiled =>
      obtain ⟨session, outcome⟩ := compiled
      obtain ⟨hmessages, hfaulty⟩ := collect_judge outcome (F.messages session)
      have hpublished : (w.finishCycle p made (w.reuses made) scope).trace.published =
          Snapshot.publishSet w.snapshot
            (w.finishCycle p made (w.reuses made) scope).workspace.snapshot := by
        simp [finishCycle, compileSession, publish, hcompile, htrace, hfaulty]
      refine ⟨state', session, hconfigured, ⟨outcome, hcompile⟩, ?_, ?_, hdocuments, rfl, ?_, ?_,
        hpublished, ?_⟩
      · simp [finishCycle, compileSession, hcompile]
      · simp [finishCycle, compileSession, hcompile]
      · simp [finishCycle, compileSession, hcompile]
      · simp [finishCycle, compileSession, publish, hcompile, hmessages]
      · rw [hpublished]
        simp [finishCycle, compileSession, publish, hcompile, hmessages]

/-- The old output cannot be deleted: nothing is handed on, and the changes stay marked. -/
theorem cycle_of_purge_error {w : Workspace F} {disk left : FileTree} {e : SessionError}
    (hpurge : Manager.purge disk w.sessions.outputDirectory? = .error (e, left))
    (scope : UriSet) :
    w.cycle disk scope =
      let failed := w.sessions.fail e "purge failed"
      ⟨{ w with sessions := failed.1 }, left, failed.2, none⟩ := by
  simp only [cycle, Manager.prepare_of_purge_error hpurge]

/-- The frontend does not come up with a session: the changes have been handed on. -/
theorem cycle_of_configure_error {w : Workspace F} {disk purged : FileTree} {deleted : Trace}
    {state : F.State} {e : FrontendError}
    (hpurge : Manager.purge disk w.sessions.outputDirectory? = .ok (purged, deleted))
    (hconfigured : w.configured purged = (state, .error e)) (scope : UriSet) :
    w.cycle disk scope =
      let failed := { w.sessions with frontend := state, session := none }.fail (.configure e)
        "configure failed"
      ⟨{ w with sessions := failed.1, documents := w.documents.drained }, purged,
        deleted ++ (Manager.handOn w.config w.sessions.session).2 ++ failed.2, none⟩ := by
  simp only [cycle, Manager.prepare_of_configure_error hpurge hconfigured]

theorem abandoned_of_purge_error {w : Workspace F} {disk : FileTree} {e : SessionError × FileTree}
    (hpurge : Manager.purge disk w.sessions.outputDirectory? = .error e) (scope : UriSet) :
    Abandoned w (w.cycle disk scope) := by
  constructor <;> simp [cycle_of_purge_error hpurge]

theorem abandoned_of_configure_error {w : Workspace F} {disk purged : FileTree} {deleted : Trace}
    {state : F.State} {e : FrontendError}
    (hpurge : Manager.purge disk w.sessions.outputDirectory? = .ok (purged, deleted))
    (hconfigured : w.configured purged = (state, .error e)) (scope : UriSet) :
    Abandoned w (w.cycle disk scope) := by
  have hdeleted := Manager.purge_published hpurge
  constructor <;>
    simp [cycle_of_configure_error hpurge hconfigured, hdeleted, DocumentStore.drained]

/-- The frontend comes up with a session: the cycle completes. -/
theorem cycle_completed {w : Workspace F} {disk purged : FileTree} {deleted : Trace}
    {state : F.State} {made : F.Session}
    (hpurge : Manager.purge disk w.sessions.outputDirectory? = .ok (purged, deleted))
    (hconfigured : w.configured purged = (state, .ok made)) (scope : UriSet) :
    ∃ state' session,
      Completed w scope (w.cycle disk scope) (w.cleared disk) state state' made session := by
  have hprepare := Manager.prepare_of_configured hpurge hconfigured
  have hcleared : w.cleared disk = purged := by rw [cleared, hpurge]
  have hcycle : w.cycle disk scope =
      w.finishCycle (w.sessions.prepare w.config w.documents disk) made (w.reuses made) scope := by
    simp only [cycle, hprepare, reuses]
  rw [hcycle, hcleared]
  exact finishCycle_completed (p := w.sessions.prepare w.config w.documents disk) hconfigured
    (by simp [hprepare]) (by simp [hprepare])
    (by simp [hprepare, Manager.purge_published hpurge]) scope

/-- A cycle is abandoned or completes. -/
theorem cycle_cases (w : Workspace F) (disk : FileTree) (scope : UriSet) :
    Abandoned w (w.cycle disk scope) ∨
      ∃ state state' made session,
        Completed w scope (w.cycle disk scope) (w.cleared disk) state state' made session := by
  cases hpurge : Manager.purge disk w.sessions.outputDirectory? with
  | error e => exact .inl (abandoned_of_purge_error hpurge scope)
  | ok result =>
      obtain ⟨purged, deleted⟩ := result
      cases hconfigured : w.configured purged with
      | mk state answer =>
          cases answer with
          | error e => exact .inl (abandoned_of_configure_error hpurge hconfigured scope)
          | ok made =>
              right
              obtain ⟨state', session, hcompleted⟩ := cycle_completed hpurge hconfigured scope
              exact ⟨state, state', made, session, hcompleted⟩

/-- A cycle that is reported on has completed. -/
theorem completed_of_report {w : Workspace F} {disk : FileTree} {scope : UriSet} {report : Report}
    (h : (w.cycle disk scope).report = some report) :
    ∃ state state' made session,
      Completed w scope (w.cycle disk scope) (w.cleared disk) state state' made session := by
  rcases w.cycle_cases disk scope with habandoned | hcompleted
  · rw [habandoned.report] at h
    cases h
  · exact hcompleted

section Report

variable {w : Workspace F} {scope : UriSet} {step : Step F} {purged : FileTree}
  {state state' : F.State} {made session : F.Session} {report : Report}

/-- The report of a completed cycle is about the session that was compiled. -/
theorem Completed.session_eq (h : Completed w scope step purged state state' made session)
    (hreport : step.report = some report) : report.session = F.id session :=
  congrArg Report.session (Option.some.inj (hreport.symm.trans h.report))

theorem Completed.reused_eq (h : Completed w scope step purged state state' made session)
    (hreport : step.report = some report) : report.reused = w.reuses made :=
  congrArg Report.reused (Option.some.inj (hreport.symm.trans h.report))

end Report

end Workspace

end PipelineServer
