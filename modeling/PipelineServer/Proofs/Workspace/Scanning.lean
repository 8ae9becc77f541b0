import PipelineServer.Proofs.Compiler.Scanning
import PipelineServer.Proofs.Workspace.Run

/-!
Workspaces that scan their sources.

Here the frontend never refuses: a live session built from the same configuration is updated for the
marked uris and keeps its number, and otherwise a session with a new number is built. Sessions are
numbered upwards, so a cycle tells the two apart rightly (`Workspace.Completed.updated_or_built`).
`Workspace.meet_lives` says where the live session comes from.
-/

namespace PipelineServer

theorem Config.same_self (config : Config) : config.same config = true := by
  obtain ⟨root, classpath⟩ := config
  cases root with
  | none => simp [same]
  | some path => simp [same, Path.same]

namespace Workspace

open Scanning (Session)

/-- How many sessions the frontend has made. -/
def made (w : Workspace Scanning.frontend) : Nat := Scanning.State.made w.sessions.frontend

/-- The session that the frontend would build now from nothing. -/
def fresh (w : Workspace Scanning.frontend) (disk : FileTree) : Session :=
  Session.build disk w.documents.drained ⟨w.made + 1⟩ w.config
    ((Scanning.State.outputBase w.sessions.frontend).join (Scanning.outputName ⟨w.made + 1⟩))

/-- The live session `old`, brought up to date for all that is marked. -/
def renewed (w : Workspace Scanning.frontend) (disk : FileTree) (old : Session) : Session :=
  w.documents.changed.keys.foldl (Session.reload disk w.documents.drained) old

/-- The number of the live session has been given out. -/
def Numbered (w : Workspace Scanning.frontend) : Prop :=
  ∀ session : Session, w.sessions.session = some session → session.id.number ≤ w.made

/-- The cycle updated the session `old` and compiled it. -/
structure Updated (w : Workspace Scanning.frontend) (scope : UriSet)
    (step : Step Scanning.frontend) (purged : FileTree) (old session : Session) : Prop where
  live : w.sessions.session = some old
  same : old.config.same w.config = true
  compiled : session = ((w.renewed purged old).compile .boundary).1
  made : step.workspace.made = w.made
  index : step.workspace.index = w.index.update session.forest scope
  reused : step.report.map Report.reused = some true

/-- The cycle built a session from nothing and compiled it. -/
structure Built (w : Workspace Scanning.frontend) (step : Step Scanning.frontend)
    (purged : FileTree) (session : Session) : Prop where
  compiled : session = ((w.fresh purged).compile .boundary).1
  made : step.workspace.made = w.made + 1
  index : step.workspace.index = Index.rebuild session.forest
  reused : step.report.map Report.reused = some false

/-- What the frontend answers: the live session brought up to date, or one built from nothing. -/
theorem configured_cases (w : Workspace Scanning.frontend) (disk : FileTree) :
    (∃ old : Session, w.sessions.session = some old ∧ old.config.same w.config = true ∧
      w.configured disk = (w.sessions.frontend, .ok (w.renewed disk old))) ∨
    (∀ old : Session, w.sessions.session = some old → old.config.same w.config = false) ∧
      w.configured disk =
        ((⟨Scanning.State.outputBase w.sessions.frontend, w.made + 1⟩ : Scanning.State),
          .ok (w.fresh disk)) := by
  cases hprevious : (Manager.handOn w.config w.sessions.session).1 with
  | none =>
      right
      refine ⟨Manager.handOn_eq_none hprevious, ?_⟩
      rw [configured, hprevious]
      rfl
  | some old =>
      left
      obtain ⟨hlive, hsame⟩ := Manager.handOn_eq_some hprevious
      refine ⟨old, hlive, hsame, ?_⟩
      rw [configured, hprevious]
      rfl

theorem reuses_renewed {w : Workspace Scanning.frontend} {old : Session}
    (hlive : w.sessions.session = some old) (disk : FileTree) :
    w.reuses (w.renewed disk old) = true :=
  reuses_iff.2 ⟨old, hlive, (Session.foldl_reload_id _ old).symm⟩

theorem reuses_fresh {w : Workspace Scanning.frontend} (hw : w.Numbered) (disk : FileTree) :
    w.reuses (w.fresh disk) = false := by
  rw [Bool.eq_false_iff]
  intro hreuses
  obtain ⟨old, hlive, hid⟩ := reuses_iff.1 hreuses
  have hnumber : old.id = ⟨w.made + 1⟩ := hid.trans (Session.build_id _ _ _)
  have hbound := hw old hlive
  rw [hnumber] at hbound
  exact Nat.not_succ_le_self _ hbound

/-- A completed cycle leaves the session that was made as compiling leaves it. -/
theorem Completed.compiled_eq {w : Workspace Scanning.frontend} {scope : UriSet}
    {step : Step Scanning.frontend} {purged : FileTree} {state state' : Scanning.State}
    {made session : Session} (h : Completed w scope step purged state state' made session) :
    state = state' ∧ session = (made.compile .boundary).1 := by
  obtain ⟨outcome, hcompile⟩ := h.compiled
  have hcompiled : (state, (made.compile .boundary).1, (made.compile .boundary).2) =
      (state', session, outcome) := hcompile
  simp only [Prod.mk.injEq] at hcompiled
  exact ⟨hcompiled.1, hcompiled.2.1.symm⟩

/-- A completed cycle updates the live session or builds a new one, and the index follows suit. -/
theorem Completed.updated_or_built {w : Workspace Scanning.frontend} {scope : UriSet}
    {step : Step Scanning.frontend} {purged : FileTree} {state state' : Scanning.State}
    {made session : Session} (h : Completed w scope step purged state state' made session)
    (hw : w.Numbered) :
    (∃ old, Updated w scope step purged old session) ∨ Built w step purged session := by
  obtain ⟨rfl, hsession⟩ := h.compiled_eq
  have hmade : step.workspace.made = state.made := congrArg Scanning.State.made h.frontend
  have hindex := h.index
  have hreused : step.report.map Report.reused = some (w.reuses made) := by
    rw [h.report]
    rfl
  rcases w.configured_cases purged with ⟨old, hlive, hsame, hanswer⟩ | ⟨-, hanswer⟩
  · left
    obtain ⟨rfl, hok⟩ := Prod.mk.inj (h.configured.symm.trans hanswer)
    obtain rfl := Except.ok.inj hok
    rw [reuses_renewed hlive] at hindex hreused
    exact ⟨old, hlive, hsame, hsession, hmade, hindex, hreused⟩
  · right
    obtain ⟨rfl, hok⟩ := Prod.mk.inj (h.configured.symm.trans hanswer)
    obtain rfl := Except.ok.inj hok
    rw [reuses_fresh hw] at hindex hreused
    exact ⟨hsession, hmade, hindex, hreused⟩

/-- A completed cycle keeps the session exactly if one is live and was built from the same
configuration. -/
theorem Completed.reuses_iff_same {w : Workspace Scanning.frontend} {scope : UriSet}
    {step : Step Scanning.frontend} {purged : FileTree} {state state' : Scanning.State}
    {made session : Session} (h : Completed w scope step purged state state' made session)
    (hw : w.Numbered) :
    w.reuses made = true ↔
      ∃ old : Session, w.sessions.session = some old ∧ old.config.same w.config = true := by
  rcases w.configured_cases purged with ⟨old, hlive, hsame, hanswer⟩ | ⟨hother, hanswer⟩
  · obtain rfl := Except.ok.inj (Prod.mk.inj (h.configured.symm.trans hanswer)).2
    exact ⟨fun _ => ⟨old, hlive, hsame⟩, fun _ => reuses_renewed hlive _⟩
  · obtain rfl := Except.ok.inj (Prod.mk.inj (h.configured.symm.trans hanswer)).2
    rw [reuses_fresh hw]
    constructor
    · intro hreuses
      cases hreuses
    · rintro ⟨old, hlive, hsame⟩
      rw [hother old hlive] at hsame
      cases hsame

theorem Updated.id_eq {w : Workspace Scanning.frontend} {scope : UriSet}
    {step : Step Scanning.frontend} {purged : FileTree} {old session : Session}
    (h : Updated w scope step purged old session) : session.id = old.id := by
  rw [h.compiled, Session.compile_id, renewed, Session.foldl_reload_id]

theorem Updated.config_eq {w : Workspace Scanning.frontend} {scope : UriSet}
    {step : Step Scanning.frontend} {purged : FileTree} {old session : Session}
    (h : Updated w scope step purged old session) : session.config = old.config := by
  rw [h.compiled]
  exact Session.foldl_reload_config _ old

theorem Updated.outputDirectory_eq {w : Workspace Scanning.frontend} {scope : UriSet}
    {step : Step Scanning.frontend} {purged : FileTree} {old session : Session}
    (h : Updated w scope step purged old session) :
    session.outputDirectory = old.outputDirectory := by
  rw [h.compiled]
  exact Session.foldl_reload_outputDirectory _ old

theorem Built.id_eq {w : Workspace Scanning.frontend} {step : Step Scanning.frontend}
    {purged : FileTree} {session : Session} (h : Built w step purged session) :
    session.id = ⟨w.made + 1⟩ := by
  rw [h.compiled, Session.compile_id, fresh, Session.build_id]

theorem Built.config_eq {w : Workspace Scanning.frontend} {step : Step Scanning.frontend}
    {purged : FileTree} {session : Session} (h : Built w step purged session) :
    session.config = w.config := by
  rw [h.compiled]
  exact Session.build_config _ _ _

theorem Built.outputDirectory_eq {w : Workspace Scanning.frontend}
    {step : Step Scanning.frontend} {purged : FileTree} {session : Session}
    (h : Built w step purged session) :
    session.outputDirectory =
      (Scanning.State.outputBase w.sessions.frontend).join (Scanning.outputName session.id) := by
  rw [h.id_eq, h.compiled]
  exact Session.build_outputDirectory _ _ _

theorem Intake.numbered {w begun : Workspace Scanning.frontend} {scope : UriSet}
    (h : Intake w begun scope) (hw : w.Numbered) : begun.Numbered := by
  intro old hold
  rw [made, h.sessions]
  exact hw old (h.sessions ▸ hold)

/-- How a session comes to be live after a step. -/
inductive Lives (w : Workspace Scanning.frontend) (disk : FileTree) (scope : UriSet)
    (step : Step Scanning.frontend) (session : Session) : Prop
  | kept (hlive : w.sessions.session = some session) (h : Quiet w step)
  | updated {begun : Workspace Scanning.frontend} {old : Session}
      (hintake : Intake w begun scope) (hold : w.sessions.session = some old)
      (hdocuments : step.workspace.documents = begun.documents.drained)
      (h : Updated begun scope step (w.cleared disk) old session)
      (hconfig : step.workspace.config = begun.config)
  | built {begun : Workspace Scanning.frontend} (hintake : Intake w begun scope)
      (hdocuments : step.workspace.documents = begun.documents.drained)
      (h : Built begun step (w.cleared disk) session)
      (hconfig : step.workspace.config = begun.config)

theorem meet_lives {w : Workspace Scanning.frontend} (hw : w.Numbered) {a : Arrival}
    {session : Session} (hlive : (w.meet a).workspace.sessions.session = some session) :
    Lives w a.disk a.event.scope (w.meet a) session := by
  cases w.handle_reaction a.disk a.event with
  | quiet h =>
      rw [meet, h.sessions] at hlive
      exact .kept hlive h
  | abandoned hintake h =>
      rw [meet, h.session] at hlive
      cases hlive
  | completed hintake h =>
      obtain rfl := Option.some.inj (h.live.symm.trans hlive)
      rcases h.updated_or_built (hintake.numbered hw) with ⟨old, hupdated⟩ | hbuilt
      · exact .updated hintake (hintake.sessions ▸ hupdated.live) h.documents hupdated h.config
      · exact .built hintake h.documents hbuilt h.config

theorem meet_numbered (w : Workspace Scanning.frontend) (a : Arrival) (hw : w.Numbered) :
    (w.meet a).workspace.Numbered := by
  intro session hlive
  cases meet_lives hw hlive with
  | kept hlive h =>
      rw [made, h.sessions]
      exact hw session hlive
  | updated hintake hold hdocuments h =>
      rw [h.made, h.id_eq]
      exact hintake.numbered hw _ h.live
  | built hintake hdocuments h =>
      have hnumber : session.id.number = (w.meet a).workspace.made := by rw [h.made, h.id_eq]
      exact Nat.le_of_eq hnumber

/-- A cycle that is reported on leaves a session that was built from the same configuration. -/
theorem same_of_report {w : Workspace Scanning.frontend} (hw : w.Numbered) {a : Arrival}
    {report : Report} (hreport : (w.meet a).report = some report) {session : Session}
    (hlive : (w.meet a).workspace.sessions.session = some session) :
    session.config.same (w.meet a).workspace.config = true := by
  cases meet_lives hw hlive with
  | kept hlive h =>
      rw [h.report] at hreport
      cases hreport
  | updated hintake hold hdocuments h hconfig =>
      rw [h.config_eq, hconfig]
      exact h.same
  | built hintake hdocuments h hconfig =>
      rw [h.config_eq, hconfig]
      exact Config.same_self _

end Workspace

end PipelineServer
