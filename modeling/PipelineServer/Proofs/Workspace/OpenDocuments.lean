import PipelineServer.Proofs.Workspace.Scanning

/-!
The compiler sees what the editor shows.

An edit marks its document, and marks are only forgotten by a cycle that reloads the marked uris or
builds the session from nothing. So the live session has every open source with its current text,
also when edits came in while cycles failed.
-/

namespace PipelineServer.Workspace

open Scanning (Session)

/-- What a run preserves: the live session has the texts of the open documents. -/
structure Mirrored (w : Workspace Scanning.frontend) : Prop where
  unmarked : w.Unmarked
  numbered : w.Numbered
  keyed : w.documents.Keyed
  overlaid : ∀ session : Session, w.sessions.session = some session →
    session.Overlaid w.documents

theorem new_mirrored (state : Scanning.State) (config : Config) :
    (new Scanning.frontend state config).Mirrored := by
  refine ⟨fun _ _ => rfl, ?_, DocumentStore.empty_keyed, ?_⟩
  · intro session hlive
    cases hlive
  · intro session hlive
    cases hlive

/-- Reloading the marked uris is enough, because a document that is not marked did not move. -/
theorem Updated.overlaid {w begun : Workspace Scanning.frontend} {scope : UriSet}
    {step : Step Scanning.frontend} {purged : FileTree} {old session : Session}
    (h : Updated begun scope step purged old session) (hintake : Intake w begun scope)
    (hold : old.Overlaid w.documents) : session.Overlaid begun.documents.drained := by
  rw [h.compiled]
  apply Session.compile_overlaid
  apply Session.foldl_reload_overlaid hold
  intro uri huri
  exact hintake.documents.unmarked uri fun hmarked => huri (SortedMap.mem_keys.2 hmarked)

theorem Built.overlaid {w : Workspace Scanning.frontend} {step : Step Scanning.frontend}
    {purged : FileTree} {session : Session} (h : Built w step purged session)
    (hkeyed : w.documents.Keyed) : session.Overlaid w.documents.drained := by
  rw [h.compiled]
  apply Session.compile_overlaid
  exact Session.build_overlaid hkeyed _ _ _

theorem meet_mirrored (w : Workspace Scanning.frontend) (a : Arrival) (hw : w.Mirrored) :
    (w.meet a).workspace.Mirrored := by
  refine ⟨meet_unmarked w a hw.unmarked, meet_numbered w a hw.numbered, meet_keyed w a hw.keyed,
    ?_⟩
  intro session hlive
  cases meet_lives hw.numbered hlive with
  | kept hlive h =>
      rw [h.documents]
      exact hw.overlaid session hlive
  | updated hintake hold hdocuments h =>
      rw [hdocuments]
      exact h.overlaid hintake (hw.overlaid _ hold)
  | built hintake hdocuments h =>
      rw [hdocuments]
      exact h.overlaid (hintake.documents.keyed hw.keyed)

/-- After every run, a cycle that is reported on leaves a session in which every open document with
a source path is a source under its own uri, with the text it has in the editor. -/
theorem open_document_is_source (state : Scanning.State) (config : Config) (past : List Arrival)
    (now : Arrival) (report : Report) :
    let step := ((new Scanning.frontend state config).after past).meet now
    step.report = some report →
      ∃ session : Session, step.workspace.sessions.session = some session ∧
        ∀ uri d path, step.workspace.documents.get? uri = some d → d.path? = some path →
          path.isSource = true → d.uri = uri ∧
            ∃ unit, session.sources.get? uri = some unit ∧ unit.text = .ok d.text := by
  intro step hreport
  have hmirrored : step.workspace.Mirrored :=
    meet_mirrored _ now (after_induction meet_mirrored (new_mirrored state config) past)
  obtain ⟨session, hlive⟩ := live_of_report hreport
  refine ⟨session, hlive, ?_⟩
  intro uri d path hopen hpath hsource
  have huri : d.uri = uri := hmirrored.keyed uri d hopen
  rw [Document.path?, huri] at hpath
  exact ⟨huri, hmirrored.overlaid session hlive uri d path hopen hpath hsource⟩

namespace OpenDocumentsWitness

/-- A disk on which the output directory of the first session is a plain file, so that it cannot
be deleted as a directory. -/
def blocked : FileTree := FileTree.bare.put [Text.encodeUtf8 "session-1"] (.file [] false)

/-- A document is opened, and then edited while the old output cannot be deleted. -/
def edited : Workspace Scanning.frontend :=
  (new Scanning.frontend (.new ⟨[0x2F]⟩) ⟨none, []⟩).after
    [⟨.bare, .opened ⟨"file:///a.nf"⟩ "process A \x7b\n\x7d\n" 1⟩,
      ⟨blocked, .edited ⟨"file:///a.nf"⟩ 2 [⟨none, "process C \x7b\n"⟩]⟩]

def retry : Arrival := ⟨.bare, .cycle ∅⟩

/-- An edit that came in with a failed cycle is in the session of the next one. -/
theorem open_document_is_source_retry :
    (edited.sessions.session.isNone = true ∧
      edited.documents.get? ⟨"file:///a.nf"⟩ =
        some ⟨⟨"file:///a.nf"⟩, "process C \x7b\n", 2⟩) ∧
      (edited.meet retry).report = some ⟨⟨2⟩, false, 1, 1⟩ ∧
      ∃ session : Session, (edited.meet retry).workspace.sessions.session = some session ∧
        ∀ uri d path, (edited.meet retry).workspace.documents.get? uri = some d →
          d.path? = some path → path.isSource = true → d.uri = uri ∧
            ∃ unit, session.sources.get? uri = some unit ∧ unit.text = .ok d.text := by
  have hreport : (edited.meet retry).report = some ⟨⟨2⟩, false, 1, 1⟩ := by decide +kernel
  exact ⟨by decide +kernel, hreport, open_document_is_source _ _ _ retry _ hreport⟩

end OpenDocumentsWitness

end PipelineServer.Workspace
