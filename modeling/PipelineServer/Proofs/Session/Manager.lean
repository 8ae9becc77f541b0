import PipelineServer.Session.Manager

/-!
What preparing a session can do, whatever the frontend.

The old output cannot be deleted, or the frontend does not come up with a session, or it does:
`Manager.prepare_of_purge_error`, `Manager.prepare_of_configure_error` and
`Manager.prepare_of_configured` say what becomes of the manager in each case.
-/

namespace PipelineServer

namespace Trace

@[simp] theorem published_nil : published [] = [] := rfl

@[simp] theorem published_append (s t : Trace) : published (s ++ t) = published s ++ published t :=
  List.filterMap_append

@[simp] theorem published_deleted (directory : Path) (t : Trace) :
    published (.deleted directory :: t) = published t := rfl

end Trace

variable {F : Frontend}

namespace Manager

@[simp] theorem fail_session (m : Manager F) (error : SessionError) (event : String) :
    (m.fail error event).1.session = none := rfl

@[simp] theorem fail_published (m : Manager F) (error : SessionError) (event : String) :
    (m.fail error event).2.published = [] := rfl

@[simp] theorem recordOutcome_frontend (m : Manager F) (previous : Option SessionId)
    (current : SessionId) (changed : Nat) :
    (m.recordOutcome previous current changed).1.frontend = m.frontend := by
  unfold recordOutcome
  split
  · rfl
  · cases previous <;> rfl

@[simp] theorem recordOutcome_published (m : Manager F) (previous : Option SessionId)
    (current : SessionId) (changed : Nat) :
    (m.recordOutcome previous current changed).2.published = [] := by
  unfold recordOutcome
  split
  · rfl
  · cases previous <;> rfl

theorem purge_published {disk purged : FileTree} {dir : Option Path} {trace : Trace}
    (h : purge disk dir = .ok (purged, trace)) : trace.published = [] := by
  unfold purge at h
  split at h
  · simp only [Except.ok.injEq, Prod.mk.injEq] at h
    rw [← h.2, Trace.published_nil]
  · split at h
    · split at h
      · simp only [Except.ok.injEq, Prod.mk.injEq] at h
        rw [← h.2, Trace.published_deleted, Trace.published_nil]
      · cases h
    · simp only [Except.ok.injEq, Prod.mk.injEq] at h
      rw [← h.2, Trace.published_nil]

@[simp] theorem makeOutput_published (disk : FileTree) (dir : Option Path) :
    (makeOutput disk dir).2.published = [] := by
  unfold makeOutput
  split
  · rfl
  · split <;> rfl

@[simp] theorem handOn_published (config : Config) (previous : Option F.Session) :
    (handOn config previous).2.published = [] := by
  unfold handOn
  split
  · rfl
  · split <;> rfl

/-- A session that is handed on is the live one, built from the configuration that is asked for. -/
theorem handOn_eq_some {config : Config} {previous : Option F.Session} {session : F.Session}
    (h : (handOn config previous).1 = some session) :
    previous = some session ∧ (F.config session).same config = true := by
  unfold handOn at h
  split at h
  · cases h
  · split at h
    · rename_i hsame
      simp only [Option.some.injEq] at h
      subst h
      exact ⟨rfl, hsame⟩
    · cases h

/-- If none is handed on, the live session was built from another configuration. -/
theorem handOn_eq_none {config : Config} {previous : Option F.Session}
    (h : (handOn config previous).1 = none) (session : F.Session)
    (hprevious : previous = some session) : (F.config session).same config = false := by
  subst hprevious
  simp only [handOn] at h
  split at h
  · cases h
  · rename_i hsame
    exact Bool.eq_false_iff.2 hsame

/-- The old output cannot be deleted. -/
theorem prepare_of_purge_error {m : Manager F} {disk left : FileTree}
    {e : SessionError} (hpurge : purge disk m.outputDirectory? = .error (e, left))
    (config : Config) (documents : DocumentStore) :
    m.prepare config documents disk =
      ⟨(m.fail e "purge failed").1, documents, left, (m.fail e "purge failed").2, none⟩ := by
  simp only [prepare, hpurge]

/-- The frontend does not come up with a session. -/
theorem prepare_of_configure_error {m : Manager F} {disk purged : FileTree} {deleted : Trace}
    {config : Config} {documents : DocumentStore} {state : F.State} {e : FrontendError}
    (hpurge : purge disk m.outputDirectory? = .ok (purged, deleted))
    (hconfigure : F.configure m.frontend purged config documents.drained documents.changed
      (handOn config m.session).1 = (state, .error e)) :
    m.prepare config documents disk =
      let failed := { m with frontend := state, session := none }.fail (.configure e)
        "configure failed"
      ⟨failed.1, documents.drained, purged,
        deleted ++ (handOn config m.session).2 ++ failed.2, none⟩ := by
  simp only [prepare, hpurge, hconfigure]

/-- The frontend comes up with a session. -/
theorem prepare_of_configured {m : Manager F} {disk purged : FileTree} {deleted : Trace}
    {config : Config} {documents : DocumentStore} {state : F.State} {session : F.Session}
    (hpurge : purge disk m.outputDirectory? = .ok (purged, deleted))
    (hconfigure : F.configure m.frontend purged config documents.drained documents.changed
      (handOn config m.session).1 = (state, .ok session)) :
    m.prepare config documents disk =
      let output := makeOutput purged (F.outputDirectory session)
      let recorded := { m with frontend := state, session := none }.recordOutcome
        (m.session.map F.id) (F.id session) documents.changed.size
      ⟨{ recorded.1 with session := some session }, documents.drained, output.1,
        deleted ++ (handOn config m.session).2 ++ output.2 ++ recorded.2,
        some (session, m.session.map F.id == some (F.id session))⟩ := by
  simp only [prepare, hpurge, hconfigure]

end Manager

end PipelineServer
