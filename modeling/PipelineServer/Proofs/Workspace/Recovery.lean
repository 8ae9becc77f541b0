import PipelineServer.Compiler.Scanning
import PipelineServer.Proofs.Workspace.Calls

/-!
Cycles that fail, and the first one that does not.

A failed cycle leaves all that the editor sees as it was, and no session. As long as nothing is
reported, none comes up, so the next report is about a new session, of which the index is made
anew.
-/

namespace PipelineServer.Workspace

variable {F : Frontend}

/-- A cycle without a report has failed, and nothing was compiled. -/
theorem Course.abandoned_of_no_report {w : Workspace F} {disk : FileTree} {scope : UriSet}
    {step : Step F} {calls : List F.Call} (h : Course w disk scope step calls)
    (hreport : step.report = none) :
    Abandoned w step ∧ ∀ before after, .compiled before after ∉ calls := by
  cases h with
  | jammed hpurge habandoned => exact ⟨habandoned, fun _ _ => List.not_mem_nil⟩
  | refused hpurge hconfigured habandoned => exact ⟨habandoned, by simp⟩
  | completed hcompleted =>
      rw [hcompleted.report] at hreport
      cases hreport

/-- While nothing is reported, no session comes up. -/
theorem after_no_session {w : Workspace F} (hw : w.sessions.session = none)
    {arrivals : List Arrival} (hreports : w.reports arrivals = []) :
    (w.after arrivals).sessions.session = none := by
  induction arrivals generalizing w with
  | nil => exact hw
  | cons a rest ih =>
      obtain ⟨hfirst, hrest⟩ := List.append_eq_nil_iff.1 hreports
      refine ih ?_ hrest
      have hkept := (meet_of_no_report (Option.toList_eq_nil_iff.1 hfirst)).2
      rw [Option.eq_none_iff_forall_ne_some]
      intro session hlive
      rw [hw] at hkept
      cases hkept session hlive

/-- The session `session` has been made for the step, and the index is that of its forest. -/
structure StartsOver (step : Step F) (report : Report) (session : F.Session) : Prop where
  replaced : report.reused = false
  live : step.workspace.sessions.session = some session
  id_eq : report.session = F.id session
  index : step.workspace.index =
    Index.rebuild (F.forest step.workspace.sessions.frontend session)

/-- The first report without a session is about a new one, of which the index is made anew. -/
theorem startsOver_of_report {w : Workspace F} (hw : w.sessions.session = none) {a : Arrival}
    {report : Report} (hreport : (w.meet a).report = some report) :
    ∃ session, StartsOver (w.meet a) report session := by
  obtain ⟨begun, state, state', made, session, hbegun, h⟩ := completed_of_meet_report hreport
  have hreuses : begun.reuses made = false := by
    rw [reuses, (begun?_intake hbegun).sessions, hw]
    rfl
  refine ⟨session, (h.reused_eq hreport).trans hreuses, h.live, h.session_eq hreport, ?_⟩
  rw [h.index, h.frontend, hreuses]
  rfl

/-- A cycle without a report publishes and compiles nothing, leaves documents, index, snapshot and
configuration alone, and no session. If it failed because the old output could not be deleted, the
changes stay marked too and the frontend was not called. Whatever comes next (the operation that
ran the cycle may still move the active file), the first report after it is about a new session, of
which the whole index is made anew. -/
theorem failed_cycle_recovers (w : Workspace F) (disk : FileTree) (scope : UriSet)
    (hfailed : (w.cycle disk scope).report = none) :
    (Abandoned w (w.cycle disk scope) ∧
      ∀ before after, .compiled before after ∉ w.cycleCalls disk scope) ∧
    (∀ e, Manager.purge disk w.sessions.outputDirectory? = .error e →
      (w.cycle disk scope).workspace.documents.changed = w.documents.changed ∧
        (w.cycle disk scope).workspace.sessions.frontend = w.sessions.frontend ∧
        w.cycleCalls disk scope = []) ∧
    ∀ (active : Option Uri) (later : List Arrival) (next : Arrival) (report : Report),
      let failed := { (w.cycle disk scope).workspace with active := active }
      failed.reports later = [] → ((failed.after later).meet next).report = some report →
        ∃ session, StartsOver ((failed.after later).meet next) report session := by
  obtain ⟨habandoned, hcompiled⟩ := (w.cycle_course disk scope).abandoned_of_no_report hfailed
  refine ⟨⟨habandoned, hcompiled⟩, ?_, ?_⟩
  · intro e hpurge
    refine ⟨?_, ?_, cycleCalls_of_purge_error hpurge scope⟩
    · rw [cycle_of_purge_error hpurge]
    · rw [cycle_of_purge_error hpurge]
      rfl
  · intro active later next report failed hlater hreport
    have hnone : failed.sessions.session = none := habandoned.session
    exact startsOver_of_report (after_no_session hnone hlater) hreport

namespace RecoveryWitness

/-- A document is open, and a session is live. -/
def compiled : Workspace Scanning.frontend :=
  (new Scanning.frontend (.new ⟨[0x2F]⟩) ⟨none, []⟩).after
    [⟨.bare, .opened ⟨"file:///a.nf"⟩ "process A \x7b\n\x7d\n" 1⟩]

/-- The output directory of the live session is a plain file by now, so that it cannot be
deleted. -/
def jammed : FileTree := FileTree.bare.put [Text.encodeUtf8 "session-1"] (.file [] false)

/-- The workspace after the failed cycle. -/
def failed : Workspace Scanning.frontend := (compiled.cycle jammed ∅).workspace

/-- The document is saved and the root moves, neither of which runs a cycle. -/
def later : List Arrival :=
  [⟨jammed, .saved ⟨"file:///a.nf"⟩⟩, ⟨jammed, .root (some (.ofText "/w"))⟩]

def edited : Arrival :=
  ⟨jammed, .edited ⟨"file:///a.nf"⟩ 2 [⟨some ⟨⟨0, 8⟩, ⟨0, 9⟩⟩, "C"⟩]⟩

/-- The process of the document, by its name. -/
def process (name : String) : Symbol :=
  ⟨⟨"file:///a.nf"⟩, name, .process, ⟨⟨0, 8⟩, ⟨1, 1⟩⟩, none, none⟩

/-- The edit is compiled in a second session, although the output of the first one could not be
deleted. Until then the index has the process under its old name, and from then on under its new
one. -/
theorem failed_cycle_recovers_edit :
    (compiled.cycle jammed ∅).report = none ∧ (compiled.cycle jammed ∅).trace.published = [] ∧
      failed.index = compiled.index ∧ compiled.cycleCalls jammed ∅ = [] ∧
      failed.reports later = [] ∧
      (failed.after later).index.files.get? ⟨"file:///a.nf"⟩ = some [process "A"] ∧
      ((failed.after later).meet edited).report = some ⟨⟨2⟩, false, 0, 0⟩ ∧
      ((failed.after later).meet edited).workspace.index.files.get? ⟨"file:///a.nf"⟩ =
        some [process "C"] ∧
      ∃ session, StartsOver ((failed.after later).meet edited) ⟨⟨2⟩, false, 0, 0⟩ session := by
  have hfailed : (compiled.cycle jammed ∅).report = none := by decide +kernel
  obtain ⟨e, hpurge⟩ : ∃ e, Manager.purge jammed compiled.sessions.outputDirectory? = .error e := by
    have hjammed : (Manager.purge jammed compiled.sessions.outputDirectory?).isOk = false := by
      decide +kernel
    cases hpurge : Manager.purge jammed compiled.sessions.outputDirectory? with
    | error e => exact ⟨e, rfl⟩
    | ok result =>
        rw [hpurge] at hjammed
        cases hjammed
  have hlater : failed.reports later = [] := by decide +kernel
  have hreport : ((failed.after later).meet edited).report = some ⟨⟨2⟩, false, 0, 0⟩ := by
    decide +kernel
  obtain ⟨⟨habandoned, -⟩, huntouched, hrecovers⟩ :=
    failed_cycle_recovers compiled jammed ∅ hfailed
  exact ⟨hfailed, habandoned.published, habandoned.index, (huntouched _ hpurge).2.2, hlater,
    by decide +kernel, hreport, by decide +kernel,
    hrecovers failed.active later edited _ hlater hreport⟩

end RecoveryWitness

end PipelineServer.Workspace
