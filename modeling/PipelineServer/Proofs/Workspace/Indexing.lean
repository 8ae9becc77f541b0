import PipelineServer.Proofs.Workspace.Scanning

/-!
The index that is kept while a session lives is the index made from nothing.

As long as a session is kept, only the files of the current change are brought up to date. That is
enough because a source that is not marked has the declarations it had before, and all that is
marked lies in the scope of the cycle.
-/

namespace PipelineServer.Workspace

open Scanning (Session)

/-- The index is that of `session`, whose declarations are up to date. -/
structure InStep (w : Workspace Scanning.frontend) (session : Session) : Prop where
  settled : session.Settled
  built : w.index.built = true
  files : w.index.files = Index.filesOf session.forest

theorem InStep.of_index_eq {v w : Workspace Scanning.frontend} {session : Session}
    (h : InStep v session) (hindex : w.index = v.index) : InStep w session := by
  obtain ⟨hsettled, hbuilt, hfiles⟩ := h
  rw [← hindex] at hbuilt hfiles
  exact ⟨hsettled, hbuilt, hfiles⟩

theorem InStep.keys_eq {w : Workspace Scanning.frontend} {session : Session}
    (h : InStep w session) : w.index.files.keys = session.forest.sources := by
  rw [h.files, Session.filesOf_forest, SortedMap.keys_mapValues, Session.forest]

theorem InStep.get?_eq {w : Workspace Scanning.frontend} {session : Session}
    (h : InStep w session) (uri : Uri) :
    w.index.files.get? uri =
      (session.forest.declarations uri).map fun ds => ds.map (Symbol.ofDeclaration uri) := by
  rw [h.files, Index.get?_filesOf session.forest_closed, Index.derive?]

/-- Outside the marked uris the session derives what it derived before. -/
theorem derive?_renewed {w : Workspace Scanning.frontend} {old : Session} (hold : old.Settled)
    (disk : FileTree) {uri : Uri} (huri : uri ∉ w.documents.changed) :
    Index.derive? ((w.renewed disk old).compile .boundary).1.forest uri =
      Index.derive? old.forest uri := by
  have hkeys : uri ∉ w.documents.changed.keys := fun h => huri (SortedMap.mem_keys.1 h)
  have hkept : (w.renewed disk old).sources.get? uri = old.sources.get? uri :=
    Session.get?_foldl_reload_of_not_mem hkeys old
  simp only [Index.derive?, Session.forest, Session.get?_compile_of_settled hold hkept]

/-- Updating the files of the scope keeps the index in step, if all that is marked is in scope. -/
theorem Updated.inStep {w : Workspace Scanning.frontend} {scope : UriSet}
    {step : Step Scanning.frontend} {purged : FileTree} {old session : Session}
    (h : Updated w scope step purged old session) (hw : InStep w old)
    (hscope : ∀ uri, uri ∈ w.documents.changed → uri ∈ scope) :
    InStep step.workspace session := by
  obtain ⟨hsettled, hbuilt, hfiles⟩ := hw
  have hagree : ∀ uri, uri ∉ scope →
      Index.derive? session.forest uri = Index.derive? old.forest uri := by
    intro uri huri
    rw [h.compiled]
    exact derive?_renewed hsettled purged fun hmarked => huri (hscope uri hmarked)
  refine ⟨?_, ?_, ?_⟩
  · rw [h.compiled]
    exact Session.compile_settled _
  · simp [h.index, Index.update, hbuilt]
  · rw [h.index]
    exact Index.update_files_eq hfiles old.forest_closed session.forest_closed hagree

theorem Built.inStep {w : Workspace Scanning.frontend} {step : Step Scanning.frontend}
    {purged : FileTree} {session : Session} (h : Built w step purged session) :
    InStep step.workspace session := by
  refine ⟨?_, ?_, ?_⟩
  · rw [h.compiled]
    exact Session.compile_settled _
  · rw [h.index]
    rfl
  · rw [h.index]
    rfl

/-- What a run preserves: whatever session is live, the index is in step with it. -/
structure Indexed (w : Workspace Scanning.frontend) : Prop where
  unmarked : w.Unmarked
  numbered : w.Numbered
  inStep : ∀ session : Session, w.sessions.session = some session → InStep w session

theorem new_indexed (state : Scanning.State) (config : Config) :
    (new Scanning.frontend state config).Indexed := by
  refine ⟨fun _ _ => rfl, ?_, ?_⟩
  · intro session hlive
    cases hlive
  · intro session hlive
    cases hlive

theorem meet_indexed (w : Workspace Scanning.frontend) (a : Arrival) (hw : w.Indexed) :
    (w.meet a).workspace.Indexed := by
  refine ⟨meet_unmarked w a hw.unmarked, meet_numbered w a hw.numbered, ?_⟩
  intro session hlive
  cases meet_lives hw.numbered hlive with
  | kept hlive h => exact (hw.inStep session hlive).of_index_eq h.index
  | updated hintake hold hdocuments h =>
      exact h.inStep ((hw.inStep _ hold).of_index_eq hintake.index) fun uri hmarked =>
        hintake.marked_mem_scope hw.unmarked hold hmarked
  | built hintake hdocuments h => exact h.inStep

/-- After every run, whatever happened to the disk meanwhile, a cycle that is reported on leaves
the index that would be made from nothing: its files are the sources of the live session, each with
the symbols of its declarations. -/
theorem index_files_eq_rebuild (state : Scanning.State) (config : Config) (past : List Arrival)
    (now : Arrival) (report : Report) :
    let step := ((new Scanning.frontend state config).after past).meet now
    step.report = some report →
      ∃ session : Session, step.workspace.sessions.session = some session ∧
        step.workspace.index.files = (Index.rebuild session.forest).files ∧
        step.workspace.index.files.keys = session.forest.sources ∧
        ∀ uri, step.workspace.index.files.get? uri =
          (session.forest.declarations uri).map fun ds => ds.map (Symbol.ofDeclaration uri) := by
  intro step hreport
  have hindexed : step.workspace.Indexed :=
    meet_indexed _ now (after_induction meet_indexed (new_indexed state config) past)
  obtain ⟨session, hlive⟩ := live_of_report hreport
  have hinStep := hindexed.inStep session hlive
  exact ⟨session, hlive, hinStep.files, hinStep.keys_eq, hinStep.get?_eq⟩

namespace IndexingWitness

/-- Two documents are open and have been compiled. -/
def opened : Workspace Scanning.frontend :=
  (new Scanning.frontend (.new ⟨[0x2F]⟩) ⟨none, []⟩).after
    [⟨.bare, .opened ⟨"file:///a.nf"⟩ "process A \x7b\n\x7d\n" 1⟩,
      ⟨.bare, .opened ⟨"file:///b.nf"⟩ "workflow B \x7b\n\x7d\n" 1⟩]

/-- One of them is edited. -/
def edit : Arrival := ⟨.bare, .edited ⟨"file:///a.nf"⟩ 2 [⟨none, "process C \x7b\n"⟩]⟩

/-- An edit of one of two files, for which the session is kept. -/
theorem index_files_eq_rebuild_edit :
    (opened.meet edit).report = some ⟨⟨1⟩, true, 1, 1⟩ ∧
      ∃ session : Session, (opened.meet edit).workspace.sessions.session = some session ∧
        (opened.meet edit).workspace.index.files = (Index.rebuild session.forest).files ∧
        (opened.meet edit).workspace.index.files.keys = session.forest.sources ∧
        ∀ uri, (opened.meet edit).workspace.index.files.get? uri =
          (session.forest.declarations uri).map fun ds => ds.map (Symbol.ofDeclaration uri) := by
  have hreport : (opened.meet edit).report = some ⟨⟨1⟩, true, 1, 1⟩ := by decide +kernel
  exact ⟨hreport, index_files_eq_rebuild _ _ _ edit _ hreport⟩

end IndexingWitness

end PipelineServer.Workspace
