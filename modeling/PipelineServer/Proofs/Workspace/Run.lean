import PipelineServer.Proofs.Workspace.Cycle

/-!
Runs: a workspace meets one event after the other, and between two of them the file system may
change in any way.

Every event either leaves all but the configuration as it is, or takes something in and runs one
cycle (`Workspace.handle_reaction`). What an event takes in is marked and lies in the scope of its
cycle, so no change is ever left waiting while a session is live (`Workspace.meet_unmarked`).
-/

namespace PipelineServer

namespace DocumentStore

/-- Every document is filed under its own uri. -/
def Keyed (s : DocumentStore) : Prop := ∀ uri d, s.get? uri = some d → d.uri = uri

/-- From `s` to `t`, something happened to uris of `scope` only, and all that happened is marked. -/
structure Touched (scope : UriSet) (s t : DocumentStore) : Prop where
  within : ∀ uri, uri ∈ t.changed → uri ∈ s.changed ∨ uri ∈ scope
  unmarked : ∀ uri, uri ∉ t.changed → t.get? uri = s.get? uri
  keyed : s.Keyed → t.Keyed

theorem empty_keyed : empty.Keyed := by
  intro uri d h
  cases h

theorem Touched.refl (scope : UriSet) (s : DocumentStore) : Touched scope s s :=
  ⟨fun _ h => .inl h, fun _ _ => rfl, id⟩

/-- A change of one document is a matter of its uri alone. -/
theorem touched_of_mark {s t : DocumentStore} {uri : Uri} {scope : UriSet} (hscope : uri ∈ scope)
    (hchanged : t.changed = SortedSet.add s.changed uri)
    (hother : ∀ other, other ≠ uri → t.get? other = s.get? other)
    (hself : s.Keyed → ∀ d, t.get? uri = some d → d.uri = uri) : Touched scope s t := by
  refine ⟨?_, ?_, ?_⟩
  · intro other h
    rw [hchanged, SortedSet.mem_add] at h
    rcases h with rfl | h
    · exact .inr hscope
    · exact .inl h
  · intro other h
    apply hother
    rintro rfl
    exact h (by simp [hchanged])
  · intro hkeyed other d h
    by_cases hne : other = uri
    · subst hne
      exact hself hkeyed d h
    · exact hkeyed other d (hother other hne ▸ h)

theorem mark_touched (s : DocumentStore) {uri : Uri} {scope : UriSet} (hscope : uri ∈ scope) :
    Touched scope s (s.mark uri) :=
  touched_of_mark hscope rfl (fun _ _ => rfl) (fun hkeyed d h => hkeyed uri d h)

theorem openDocument_touched (s : DocumentStore) {uri : Uri} {scope : UriSet} (text : String)
    (version : Int) (hscope : uri ∈ scope) : Touched scope s (s.openDocument uri text version) := by
  apply touched_of_mark hscope rfl
  · intro other hne
    exact SortedMap.get?_insert_of_ne _ _ hne
  · intro _ d h
    have hd : some (⟨uri, text, version⟩ : Document) = some d :=
      (SortedMap.get?_insert_self _ _ _).symm.trans h
    cases hd
    rfl

theorem foldl_apply_uri (edits : List Edit) (d : Document) :
    (edits.foldl Document.apply d).uri = d.uri := by
  induction edits generalizing d with
  | nil => rfl
  | cons edit rest ih => exact ih (d.apply edit)

theorem change?_touched {s t : DocumentStore} {uri : Uri} {version : Int} {edits : List Edit}
    {scope : UriSet} (hscope : uri ∈ scope) (h : s.change? uri version edits = some t) :
    Touched scope s t := by
  rw [change?, Option.map_eq_some_iff] at h
  obtain ⟨d, hd, rfl⟩ := h
  apply touched_of_mark hscope rfl
  · intro other hne
    exact SortedMap.get?_insert_of_ne _ _ hne
  · intro hkeyed d' h
    have hd' := (SortedMap.get?_insert_self _ _ _).symm.trans h
    cases hd'
    exact (foldl_apply_uri edits d).trans (hkeyed uri d hd)

theorem close_touched (s : DocumentStore) {uri : Uri} {scope : UriSet} (hscope : uri ∈ scope) :
    Touched scope s (s.close uri) := by
  apply touched_of_mark hscope rfl
  · intro other hne
    exact SortedMap.get?_erase_of_ne _ hne
  · intro _ d h
    have hnone := (SortedMap.get?_erase_self s.documents uri).symm.trans h
    cases hnone

theorem foldl_mark_documents (uris : List Uri) (s : DocumentStore) :
    (uris.foldl mark s).documents = s.documents := by
  induction uris generalizing s with
  | nil => rfl
  | cons uri rest ih => exact ih (s.mark uri)

theorem mem_foldl_mark_changed {uris : List Uri} {s : DocumentStore} {uri : Uri} :
    uri ∈ (uris.foldl mark s).changed ↔ uri ∈ uris ∨ uri ∈ s.changed := by
  have h : (uris.foldl mark s).changed = uris.foldl SortedSet.add s.changed := by
    induction uris generalizing s with
    | nil => rfl
    | cons first rest ih => exact ih
  rw [h, SortedSet.mem_foldl_add]

theorem foldl_mark_touched (uris : List Uri) (s : DocumentStore) :
    Touched (SortedSet.ofKeys uris) s (uris.foldl mark s) := by
  have hget : ∀ uri, (uris.foldl mark s).get? uri = s.get? uri := by
    intro uri
    rw [get?, foldl_mark_documents, get?]
  refine ⟨?_, fun uri _ => hget uri, ?_⟩
  · intro uri h
    rw [SortedSet.mem_ofKeys]
    exact (mem_foldl_mark_changed.1 h).symm
  · intro hkeyed uri d h
    exact hkeyed uri d (hget uri ▸ h)

end DocumentStore

namespace Trace

/-- Nothing but lines for the operator. -/
def OnlyLogs (t : Trace) : Prop := ∀ e ∈ t, ∃ level text, e = .log level text

theorem OnlyLogs.nil : OnlyLogs [] := List.forall_mem_nil _

theorem OnlyLogs.line (level : Level) (text : String) : OnlyLogs [.log level text] :=
  List.forall_mem_singleton.2 ⟨level, text, rfl⟩

theorem OnlyLogs.published {t : Trace} (h : t.OnlyLogs) : t.published = [] := by
  apply List.filterMap_eq_nil_iff.2
  intro e he
  obtain ⟨level, text, rfl⟩ := h e he
  rfl

end Trace

/-- The uris an event is about. -/
def Event.scope : Event → UriSet
  | .opened uri _ _ | .edited uri _ _ | .closed uri | .visited uri => SortedSet.ofKeys [uri]
  | .watched uris => SortedSet.ofKeys uris
  | .cycle scope => scope
  | .saved _ | .settings _ | .classpath _ | .root _ => ∅

/-- The configuration, with the root that the event brings if it brings one. -/
def Event.reroot (config : Config) : Event → Config
  | .root path => { config with root := path }
  | _ => config

namespace Workspace

variable {F : Frontend}

/-- A step without a cycle. Only the configuration may have changed. -/
structure Quiet (w : Workspace F) (step : Step F) : Prop where
  report : step.report = none
  published : step.trace.published = []
  documents : step.workspace.documents = w.documents
  sessions : step.workspace.sessions = w.sessions
  index : step.workspace.index = w.index
  snapshot : step.workspace.snapshot = w.snapshot

/-- What an event does before its cycle, which is then run for `scope`. -/
structure Intake (w begun : Workspace F) (scope : UriSet) : Prop where
  documents : DocumentStore.Touched scope w.documents begun.documents
  sessions : begun.sessions = w.sessions
  index : begun.index = w.index
  snapshot : begun.snapshot = w.snapshot

/-- All that an event about the uris of `scope` can lead to. -/
inductive Reaction (w : Workspace F) (disk : FileTree) (scope : UriSet) (step : Step F) : Prop
  | quiet (h : Quiet w step)
  | abandoned {begun : Workspace F} (hintake : Intake w begun scope) (h : Abandoned begun step)
  | completed {begun : Workspace F} {state state' : F.State} {made session : F.Session}
      (hintake : Intake w begun scope)
      (h : Completed begun scope step (w.cleared disk) state state' made session)

/-- A step that differs from a cycle only in its log and in the active file. -/
structure Relays (outer inner : Step F) : Prop where
  report : outer.report = inner.report
  published : outer.trace.published = inner.trace.published
  workspace : ∃ active, outer.workspace = { inner.workspace with active := active }

theorem Abandoned.relay {w : Workspace F} {inner outer : Step F} (h : Abandoned w inner)
    (hrelays : Relays outer inner) : Abandoned w outer := by
  obtain ⟨hreport, hpublished, active, hworkspace⟩ := hrelays
  constructor
  · rw [hreport, h.report]
  · rw [hpublished, h.published]
  · rw [hworkspace]
    exact h.session
  · rw [hworkspace]
    exact h.documents
  · rw [hworkspace]
    exact h.config
  · rw [hworkspace]
    exact h.index
  · rw [hworkspace]
    exact h.snapshot

theorem Completed.relay {w : Workspace F} {scope : UriSet} {inner outer : Step F}
    {purged : FileTree} {state state' : F.State} {made session : F.Session}
    (h : Completed w scope inner purged state state' made session)
    (hrelays : Relays outer inner) :
    Completed w scope outer purged state state' made session := by
  obtain ⟨hreport, hpublished, active, hworkspace⟩ := hrelays
  refine ⟨h.configured, h.compiled, ?_, ?_, ?_, ?_, ?_, ?_, ?_, ?_⟩
  · rw [hworkspace]
    exact h.frontend
  · rw [hworkspace]
    exact h.live
  · rw [hworkspace]
    exact h.documents
  · rw [hworkspace]
    exact h.config
  · rw [hworkspace]
    exact h.index
  · rw [hworkspace]
    exact h.snapshot
  · rw [hpublished, hworkspace]
    exact h.published
  · rw [hreport, hpublished]
    exact h.report

theorem Intake.cleared_eq {w begun : Workspace F} {scope : UriSet} (h : Intake w begun scope)
    (disk : FileTree) : begun.cleared disk = w.cleared disk := by
  rw [cleared, h.sessions, cleared]

/-- Taking something in and running a cycle is one of the ways to handle an event. -/
theorem Intake.reaction {w begun : Workspace F} {scope : UriSet} (h : Intake w begun scope)
    {disk : FileTree} {step : Step F} (hrelays : Relays step (begun.cycle disk scope)) :
    Reaction w disk scope step := by
  rcases begun.cycle_cases disk scope with habandoned | ⟨_, _, _, _, hcompleted⟩
  · exact .abandoned h (habandoned.relay hrelays)
  · rw [h.cleared_eq] at hcompleted
    exact .completed h (hcompleted.relay hrelays)

/-- The workspace with another classpath; nothing if it is the one it has. -/
def reclassed? (w : Workspace F) (entries : List String) : Option (Workspace F) :=
  if entries = w.config.classpath then none
  else some { w with config := { w.config with classpath := entries } }

/-- The workspace with which the cycle of an event begins; nothing if the event runs none. -/
def begun? (w : Workspace F) : Event → Option (Workspace F)
  | .opened uri text version =>
      some { w with documents := w.documents.openDocument uri text version }
  | .edited uri version edits =>
      (w.documents.change? uri version edits).map fun documents => { w with documents := documents }
  | .closed uri => some { w with documents := w.documents.close uri }
  | .watched uris =>
      if uris.isEmpty then none
      else some { w with documents := uris.foldl DocumentStore.mark w.documents }
  | .settings payload => (Settings.classpath? payload).bind w.reclassed?
  | .classpath entries => w.reclassed? entries
  | .visited uri =>
      if w.isAway uri then some { w with documents := w.documents.mark uri } else none
  | .cycle _ => some w
  | .saved _ | .root _ => none

section Begun

variable {w begun : Workspace F} {event : Event}

theorem reclassed?_eq_some {entries : List String} (h : w.reclassed? entries = some begun) :
    entries ≠ w.config.classpath ∧
      { w with config := { w.config with classpath := entries } } = begun := by
  rw [reclassed?] at h
  split at h
  · cases h
  · rename_i hne
    exact ⟨hne, Option.some.inj h⟩

/-- What the event takes in lies in its scope. -/
theorem begun?_intake (h : w.begun? event = some begun) : Intake w begun event.scope := by
  have hsingle : ∀ uri : Uri, uri ∈ SortedSet.ofKeys [uri] := fun uri => by simp
  have hclasspath : ∀ entries, w.reclassed? entries = some begun → Intake w begun ∅ := by
    intro entries h
    obtain ⟨-, rfl⟩ := reclassed?_eq_some h
    exact ⟨.refl _ _, rfl, rfl, rfl⟩
  cases event with
  | opened uri text version =>
      cases h
      exact ⟨w.documents.openDocument_touched text version (hsingle uri), rfl, rfl, rfl⟩
  | edited uri version edits =>
      obtain ⟨documents, hchange, rfl⟩ := Option.map_eq_some_iff.1 h
      exact ⟨DocumentStore.change?_touched (hsingle uri) hchange, rfl, rfl, rfl⟩
  | closed uri =>
      cases h
      exact ⟨w.documents.close_touched (hsingle uri), rfl, rfl, rfl⟩
  | watched uris =>
      simp only [begun?] at h
      split at h
      · cases h
      · cases h
        exact ⟨DocumentStore.foldl_mark_touched uris w.documents, rfl, rfl, rfl⟩
  | settings payload =>
      obtain ⟨entries, -, h⟩ := Option.bind_eq_some_iff.1 h
      exact hclasspath entries h
  | classpath entries => exact hclasspath entries h
  | visited uri =>
      simp only [begun?] at h
      split at h
      · cases h
        exact ⟨w.documents.mark_touched (hsingle uri), rfl, rfl, rfl⟩
      · cases h
  | cycle scope =>
      cases h
      exact ⟨.refl _ _, rfl, rfl, rfl⟩
  | saved uri => cases h
  | root path => cases h

/-- Handling an event that runs a cycle is running that cycle, but for the active file and lines in
the log. -/
theorem handle_begun (h : w.begun? event = some begun) (disk : FileTree) :
    ∃ front active, Trace.OnlyLogs front ∧ w.handle disk event =
      let step := begun.cycle disk event.scope
      ⟨{ step.workspace with active := active }, step.disk, front ++ step.trace, step.report⟩ := by
  have hclasspath : ∀ entries, w.reclassed? entries = some begun →
      ∃ front active, Trace.OnlyLogs front ∧ w.setClasspath disk entries =
        let step := begun.cycle disk ∅
        ⟨{ step.workspace with active := active }, step.disk, front ++ step.trace,
          step.report⟩ := by
    intro entries h
    obtain ⟨hne, rfl⟩ := reclassed?_eq_some h
    rw [setClasspath, if_neg hne]
    exact ⟨_, none, .line _ _, rfl⟩
  cases event with
  | opened uri text version =>
      cases h
      exact ⟨[], some uri, .nil, rfl⟩
  | edited uri version edits =>
      obtain ⟨documents, hchange, rfl⟩ := Option.map_eq_some_iff.1 h
      simp only [handle, didEdit, hchange]
      exact ⟨[], some uri, .nil, rfl⟩
  | closed uri =>
      cases h
      exact ⟨[], some uri, .nil, rfl⟩
  | watched uris =>
      simp only [begun?] at h
      split at h
      · cases h
      · rename_i hsome
        cases h
        rw [handle, didChangeFiles, if_neg hsome]
        exact ⟨[], _, .nil, rfl⟩
  | settings payload =>
      obtain ⟨entries, hentries, h⟩ := Option.bind_eq_some_iff.1 h
      simp only [handle, didChangeSettings, hentries]
      exact hclasspath entries h
  | classpath entries => exact hclasspath entries h
  | visited uri =>
      simp only [begun?] at h
      split at h
      · rename_i haway
        cases h
        rw [handle, visit, if_pos haway]
        exact ⟨_, some uri, .line _ _, rfl⟩
      · cases h
  | cycle scope =>
      cases h
      exact ⟨[], _, .nil, rfl⟩
  | saved uri => cases h
  | root path => cases h

/-- Handling an event that runs a cycle comes down to that cycle. -/
theorem handle_relays (h : w.begun? event = some begun) (disk : FileTree) :
    Relays (w.handle disk event) (begun.cycle disk event.scope) := by
  obtain ⟨front, active, hlogs, hhandle⟩ := handle_begun h disk
  rw [hhandle]
  refine ⟨rfl, ?_, active, rfl⟩
  rw [Trace.published_append, hlogs.published, List.nil_append]

theorem classpath_of_reclassed?_eq_none {entries : List String}
    (h : w.reclassed? entries = none) : entries = w.config.classpath := by
  rw [reclassed?] at h
  split at h
  · assumption
  · cases h

/-- An event that runs no cycle changes at most the root, and logs what it has to say. -/
theorem handle_silent (h : w.begun? event = none) (disk : FileTree) :
    ∃ trace, Trace.OnlyLogs trace ∧
      w.handle disk event = { w with config := event.reroot w.config }.idle disk trace := by
  have hclasspath : ∀ entries, w.reclassed? entries = none →
      w.setClasspath disk entries = w.idle disk [] := by
    intro entries h
    rw [setClasspath, if_pos (classpath_of_reclassed?_eq_none h)]
  cases event with
  | opened uri text version => cases h
  | edited uri version edits =>
      rw [begun?, Option.map_eq_none_iff] at h
      simp only [handle, didEdit, h]
      exact ⟨_, .line _ _, rfl⟩
  | closed uri => cases h
  | watched uris =>
      simp only [begun?] at h
      split at h
      · rename_i hempty
        rw [handle, didChangeFiles, if_pos hempty]
        exact ⟨_, .nil, rfl⟩
      · cases h
  | settings payload =>
      cases hentries : Settings.classpath? payload with
      | none =>
          simp only [handle, didChangeSettings, hentries]
          exact ⟨_, .line _ _, rfl⟩
      | some entries =>
          rw [begun?, hentries, Option.bind_some] at h
          simp only [handle, didChangeSettings, hentries, hclasspath entries h]
          exact ⟨_, .nil, rfl⟩
  | classpath entries =>
      rw [handle, hclasspath entries h]
      exact ⟨_, .nil, rfl⟩
  | visited uri =>
      simp only [begun?] at h
      split at h
      · cases h
      · rename_i haway
        rw [handle, visit, if_neg haway]
        exact ⟨_, .nil, rfl⟩
  | cycle scope => cases h
  | saved uri => exact ⟨_, .line _ _, rfl⟩
  | root path => exact ⟨_, .nil, rfl⟩

/-- An event that runs no cycle changes at most the root. -/
theorem handle_idle (h : w.begun? event = none) (disk : FileTree) :
    ∃ trace, trace.published = [] ∧
      w.handle disk event = { w with config := event.reroot w.config }.idle disk trace := by
  obtain ⟨trace, hlogs, hhandle⟩ := handle_silent h disk
  exact ⟨trace, hlogs.published, hhandle⟩

end Begun

/-- Every event is quiet, or takes something in and then runs a cycle. -/
theorem handle_reaction (w : Workspace F) (disk : FileTree) (event : Event) :
    Reaction w disk event.scope (w.handle disk event) := by
  cases h : w.begun? event with
  | none =>
      obtain ⟨trace, hpublished, hidle⟩ := handle_idle h disk
      rw [hidle]
      exact .quiet ⟨rfl, hpublished, rfl, rfl, rfl, rfl⟩
  | some begun => exact (begun?_intake h).reaction (handle_relays h disk)

end Workspace

/-- An event, and the file system as it is when the event is met. -/
structure Arrival where
  disk : FileTree
  event : Event

namespace Workspace

variable {F : Frontend}

/-- What meeting an arrival leads to. -/
def meet (w : Workspace F) (a : Arrival) : Step F := w.handle a.disk a.event

/-- The workspace after a run. The disk of each arrival is its own: between two arrivals the file
system may change in any way. -/
def after (w : Workspace F) : List Arrival → Workspace F
  | [] => w
  | a :: rest => (w.meet a).workspace.after rest

theorem after_append (w : Workspace F) (past later : List Arrival) :
    w.after (past ++ later) = (w.after past).after later := by
  induction past generalizing w with
  | nil => rfl
  | cons a rest ih => exact ih _

/-- What every arrival preserves holds after every run. -/
theorem after_induction {P : Workspace F → Prop} (hstep : ∀ w a, P w → P (w.meet a).workspace)
    {w : Workspace F} (hw : P w) (arrivals : List Arrival) : P (w.after arrivals) := by
  induction arrivals generalizing w with
  | nil => exact hw
  | cons a rest ih => exact ih (hstep w a hw)

/-- The reports of a run, in order. -/
def reports (w : Workspace F) : List Arrival → List Report
  | [] => []
  | a :: rest => (w.meet a).report.toList ++ (w.meet a).workspace.reports rest

/-- Only a completed cycle is reported on. -/
theorem completed_of_meet_report {w : Workspace F} {a : Arrival} {report : Report}
    (hreport : (w.meet a).report = some report) :
    ∃ begun state state' made session, w.begun? a.event = some begun ∧
      Completed begun a.event.scope (w.meet a) (w.cleared a.disk) state state' made session := by
  cases hbegun : w.begun? a.event with
  | none =>
      obtain ⟨trace, -, hidle⟩ := handle_idle hbegun a.disk
      rw [meet, hidle] at hreport
      cases hreport
  | some begun =>
      have hrelays := handle_relays hbegun a.disk
      have hcycle : (begun.cycle a.disk a.event.scope).report = some report :=
        hrelays.report.symm.trans hreport
      obtain ⟨state, state', made, session, h⟩ := completed_of_report hcycle
      rw [(begun?_intake hbegun).cleared_eq] at h
      exact ⟨begun, state, state', made, session, rfl, h.relay hrelays⟩

/-- A cycle that is reported on leaves its session live. -/
theorem live_of_report {w : Workspace F} {a : Arrival} {report : Report}
    (hreport : (w.meet a).report = some report) :
    ∃ session, (w.meet a).workspace.sessions.session = some session := by
  obtain ⟨_, _, _, _, session, -, h⟩ := completed_of_meet_report hreport
  exact ⟨session, h.live⟩

/-- A step without a report leaves the index alone, and at most takes the session away. -/
theorem meet_of_no_report {w : Workspace F} {a : Arrival} (h : (w.meet a).report = none) :
    (w.meet a).workspace.index = w.index ∧
      ∀ session, (w.meet a).workspace.sessions.session = some session →
        w.sessions.session = some session := by
  rw [meet] at h ⊢
  cases w.handle_reaction a.disk a.event with
  | quiet hquiet =>
      rw [hquiet.index, hquiet.sessions]
      exact ⟨rfl, fun _ hlive => hlive⟩
  | abandoned hintake habandoned =>
      refine ⟨habandoned.index.trans hintake.index, ?_⟩
      intro session hlive
      rw [habandoned.session] at hlive
      cases hlive
  | completed hintake hcompleted =>
      rw [hcompleted.report] at h
      cases h

/-- No change is left waiting while a session is live. -/
def Unmarked (w : Workspace F) : Prop :=
  ∀ session, w.sessions.session = some session → w.documents.changed = ∅

theorem meet_unmarked (w : Workspace F) (a : Arrival) (hw : w.Unmarked) :
    (w.meet a).workspace.Unmarked := by
  intro session hlive
  cases w.handle_reaction a.disk a.event with
  | quiet h =>
      rw [meet, h.sessions] at hlive
      rw [meet, h.documents]
      exact hw session hlive
  | abandoned hintake h =>
      rw [meet, h.session] at hlive
      cases hlive
  | completed hintake h =>
      rw [meet, h.documents]
      rfl

/-- When a cycle begins with a live session, all that is marked lies in its scope. -/
theorem Intake.marked_mem_scope {w begun : Workspace F} {scope : UriSet}
    (h : Intake w begun scope) (hw : w.Unmarked) {session : F.Session}
    (hlive : w.sessions.session = some session) {uri : Uri}
    (hmarked : uri ∈ begun.documents.changed) : uri ∈ scope := by
  rcases h.documents.within uri hmarked with hold | hscope
  · rw [hw session hlive] at hold
    exact absurd hold (SortedMap.not_mem_empty uri)
  · exact hscope

theorem meet_keyed (w : Workspace F) (a : Arrival) (hw : w.documents.Keyed) :
    (w.meet a).workspace.documents.Keyed := by
  intro uri d hd
  cases w.handle_reaction a.disk a.event with
  | quiet h =>
      rw [meet, h.documents] at hd
      exact hw uri d hd
  | abandoned hintake h =>
      rw [meet, DocumentStore.get?, h.documents] at hd
      exact hintake.documents.keyed hw uri d hd
  | completed hintake h =>
      rw [meet, h.documents] at hd
      exact hintake.documents.keyed hw uri d hd

end Workspace

end PipelineServer
