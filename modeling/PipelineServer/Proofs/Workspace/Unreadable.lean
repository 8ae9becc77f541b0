import PipelineServer.Proofs.Compiler.Readings
import PipelineServer.Proofs.Workspace.Scanning

/-!
Cycles over sessions some of whose sources cannot be read.

A compilation that meets an unreadable source is a fault, but a fault carries the messages, and a
cycle takes them over as it takes over those of any other compilation (`Workspace.TakesOver`). So
what it shows to the editor depends on the readable sources alone.
-/

namespace PipelineServer.Workspace

open Scanning (Session)

section Prepared

variable {F : Frontend}

/-- A session that has been prepared is compiled. -/
theorem completed_of_prepared {w : Workspace F} {disk : FileTree} {made : F.Session} {reused : Bool}
    (h : (w.sessions.prepare w.config w.documents disk).session = some (made, reused))
    (scope : UriSet) :
    w.reuses made = reused ∧ ∃ state state' session,
      Completed w scope (w.cycle disk scope) (w.cleared disk) state state' made session := by
  cases hpurge : Manager.purge disk w.sessions.outputDirectory? with
  | error e =>
      rw [Manager.prepare_of_purge_error hpurge] at h
      cases h
  | ok result =>
      obtain ⟨purged, deleted⟩ := result
      cases hconfigured : w.configured purged with
      | mk state answer =>
          cases answer with
          | error e =>
              rw [Manager.prepare_of_configure_error hpurge hconfigured] at h
              cases h
          | ok session =>
              rw [Manager.prepare_of_configured hpurge hconfigured] at h
              simp only [Option.some.injEq, Prod.mk.injEq] at h
              obtain ⟨rfl, hreused⟩ := h
              obtain ⟨state', compiled, hcompleted⟩ := cycle_completed hpurge hconfigured scope
              exact ⟨hreused, state, state', compiled, hcompleted⟩

end Prepared

/-- The index after a compilation, file by file. -/
theorem get?_reindex {forest : Forest} (hclosed : forest.Closed) (index : Index) (reused : Bool)
    (scope : UriSet) (uri : Uri) :
    (reindex index forest reused scope).files.get? uri =
      if reused = true ∧ index.built = true ∧ uri ∉ scope then index.files.get? uri
      else Index.derive? forest uri := by
  cases reused with
  | false => simp [reindex, Index.rebuild, Index.get?_filesOf hclosed]
  | true => simp [reindex, Index.get?_update hclosed]

/-- The step took over what the compilation of a session found: its declarations went into the
index, apart from files that a kept index is not brought up to date for, and its messages were
published. -/
structure TakesOver (w : Workspace Scanning.frontend) (scope : UriSet)
    (step : Step Scanning.frontend) (compiled : Session) (reused : Bool) : Prop where
  live : step.workspace.sessions.session = some compiled
  index : ∀ uri, step.workspace.index.files.get? uri =
    if reused = true ∧ w.index.built = true ∧ uri ∉ scope then w.index.files.get? uri
    else (compiled.forest.declarations uri).map fun ds => ds.map (Symbol.ofDeclaration uri)
  snapshot : step.workspace.snapshot = Snapshot.ofMessages Uri.ofPath? compiled.messages
  published : step.trace.published = Snapshot.publishSet w.snapshot step.workspace.snapshot
  report : step.report =
    some ⟨compiled.id, reused, compiled.messages.length, step.trace.published.length⟩

/-- Whatever the outcome of the compilation, a cycle takes it over. -/
theorem takesOver_of_prepared {w : Workspace Scanning.frontend} {disk : FileTree} {s : Session}
    {reused : Bool}
    (h : (w.sessions.prepare w.config w.documents disk).session = some (s, reused))
    (scope : UriSet) :
    TakesOver w scope (w.cycle disk scope) (s.compile .boundary).1 reused := by
  obtain ⟨rfl, state, state', session, hcompleted⟩ := completed_of_prepared h scope
  obtain ⟨rfl, rfl⟩ := hcompleted.compiled_eq
  refine ⟨hcompleted.live, ?_, hcompleted.snapshot, hcompleted.published, hcompleted.report⟩
  intro uri
  rw [hcompleted.index]
  exact get?_reindex (Session.forest_closed _) _ _ _ _

section View

variable {v w : Workspace Scanning.frontend} {scope : UriSet} {step other : Step Scanning.frontend}
  {s t : Session} {reused : Bool}

/-- The symbols of a file after a compilation has been taken over. -/
theorem TakesOver.symbols_eq {compiled : Session} (h : TakesOver w scope step compiled reused)
    (uri : Uri) :
    step.workspace.index.symbols uri =
      if reused = true ∧ w.index.built = true ∧ uri ∉ scope then w.index.symbols uri
      else ((compiled.forest.declarations uri).getD []).map (Symbol.ofDeclaration uri) := by
  rw [Index.symbols, h.index]
  split
  · rfl
  · cases compiled.forest.declarations uri <;> rfl

/-- Steps that took over sessions with the same readable sources show the same, if they started
from the same. -/
theorem TakesOver.same_view (hw : TakesOver w scope step (s.compile .boundary).1 reused)
    (hv : TakesOver v scope other (t.compile .boundary).1 reused)
    (hreadings : t.readings = s.readings) (hindex : v.index = w.index)
    (hsnapshot : v.snapshot = w.snapshot) :
    other.trace.published = step.trace.published ∧
      other.workspace.snapshot = step.workspace.snapshot ∧
      ∀ uri, other.workspace.index.symbols uri = step.workspace.index.symbols uri := by
  have hmessages : (t.compile .boundary).1.messages = (s.compile .boundary).1.messages := by
    rw [Session.compile_messages, Session.compile_messages, hreadings]
  have hshown : other.workspace.snapshot = step.workspace.snapshot := by
    rw [hv.snapshot, hw.snapshot, hmessages]
  refine ⟨?_, hshown, ?_⟩
  · rw [hv.published, hw.published, hshown, hsnapshot]
  · -- an unreadable source is a file without symbols, and one that was left out is no file at all
    intro uri
    rw [hv.symbols_eq, hw.symbols_eq, hindex, Session.declarations_of_readings_eq hreadings]

end View

/-- Sources that cannot be read leave the others as they are, whatever earlier compilations left in
the session.

The messages are those about the readable sources, in the order of the uris. A readable source has
the declarations of its text and any other has none, and it makes no difference whether the
unreadable sources are left out before or afterwards. The compilation fails unexpectedly if and only
if a source cannot be read, and otherwise with the number of messages if there are any. In each case
the messages are passed on, as those of a fault or not, and a cycle indexes the declarations and
publishes the messages, as it does for every session with the same readable sources. Compiling again
changes nothing. -/
theorem readable_sources_undisturbed (s : Session) :
    let compiled := (s.compile .boundary).1
    let outcome := (s.compile .boundary).2
    let messages := s.readings.flatMap fun r => Source.check r.path r.text
    compiled.messages = messages ∧
    (∀ uri unit, s.sources.get? uri = some unit →
      (∀ text, unit.text = .ok text →
        compiled.forest.declarations uri = some (Source.declarations text.toList)) ∧
      ∀ e, unit.text = .error e → compiled.forest.declarations uri = some []) ∧
    (s.readable.compile .boundary).1 = compiled.readable ∧
    ((∃ reason, outcome = .failed (.unexpected reason)) ↔ s.Impaired) ∧
    (∀ n, outcome = .failed (.manyErrors n) ↔ ¬s.Impaired ∧ messages.length = n ∧ 0 < n) ∧
    (outcome = .finished ↔ ¬s.Impaired ∧ messages = []) ∧
    (∀ state : Scanning.State,
      (∀ reason, outcome = .failed (.unexpected reason) →
        compileSession Scanning.frontend state s =
          (state, compiled, .error (.unexpected reason messages))) ∧
      (¬s.Impaired →
        compileSession Scanning.frontend state s = (state, compiled, .ok messages))) ∧
    (∀ (w : Workspace Scanning.frontend) disk scope reused,
      (w.sessions.prepare w.config w.documents disk).session = some (s, reused) →
        TakesOver w scope (w.cycle disk scope) compiled reused ∧
        ∀ (v : Workspace Scanning.frontend) disk' t, v.index = w.index → v.snapshot = w.snapshot →
          (v.sessions.prepare v.config v.documents disk').session = some (t, reused) →
          t.readings = s.readings →
            (v.cycle disk' scope).trace.published = (w.cycle disk scope).trace.published ∧
            (v.cycle disk' scope).workspace.snapshot = (w.cycle disk scope).workspace.snapshot ∧
            ∀ uri, (v.cycle disk' scope).workspace.index.symbols uri =
              (w.cycle disk scope).workspace.index.symbols uri) ∧
    compiled.compile .boundary = (compiled, outcome) := by
  intro compiled outcome messages
  have hmessages : compiled.messages = messages := s.compile_messages
  refine ⟨hmessages, ?_, s.compile_readable, Session.compile_unexpected_iff, ?_, ?_, ?_, ?_,
    s.compile_compile .boundary⟩
  · intro uri unit hunit
    exact ⟨fun text htext => Session.declarations_of_text hunit htext,
      fun e herror => Session.declarations_of_error hunit herror⟩
  · intro n
    rw [← hmessages]
    exact Session.compile_manyErrors_iff
  · rw [← hmessages]
    exact Session.compile_finished_iff
  · intro state
    have hpassed : compileSession Scanning.frontend state s =
        (state, compiled, judge outcome messages) := by
      rw [← hmessages]
      rfl
    rw [hpassed]
    refine ⟨?_, ?_⟩
    · intro reason houtcome
      rw [houtcome]
      rfl
    · intro hread
      rw [Session.judge_of_not_impaired hread]
  · intro w disk scope reused hprepared
    have htaken := takesOver_of_prepared hprepared scope
    refine ⟨htaken, ?_⟩
    intro v disk' t hindex hsnapshot hother hreadings
    exact htaken.same_view (takesOver_of_prepared hother scope) hreadings hindex hsnapshot

namespace UnreadableWitness

/-- The root and nothing in it. -/
def emptied : FileTree := FileTree.bare.put [Text.encodeUtf8 "w"] (.directory false)

/-- The root with a file whose block is never closed. -/
def holding (locked : Bool) : FileTree :=
  emptied.put [Text.encodeUtf8 "w", Text.encodeUtf8 "b.nf"]
    (.file (Text.encodeUtf8 "workflow B \x7b\n") locked)

/-- The file has been compiled along with an open document, and is to be read again. -/
def marked : Workspace Scanning.frontend :=
  let compiled := (new Scanning.frontend (.new ⟨[0x2F]⟩) ⟨some (.ofText "/w"), []⟩).after
    [⟨holding false, .opened ⟨"file:///w/a.nf"⟩ "process A \x7b\n" 1⟩]
  { compiled with documents := compiled.documents.mark ⟨"file:///w/b.nf"⟩ }

def scope : UriSet := SortedSet.ofKeys [⟨"file:///w/b.nf"⟩]

/-- The session for the compilation on a disk, and whether it is the one from before. -/
def prepared (disk : FileTree) : Option (Session × Bool) :=
  (marked.sessions.prepare marked.config marked.documents disk).session

/-- What is read of the open document. -/
def document : Scanning.Reading :=
  ⟨⟨"file:///w/a.nf"⟩, .ofText "/w/a.nf", "process A \x7b\n"⟩

/-- The file is locked by now, while the session still holds its message. The editor sees what it
sees when the file has been deleted. -/
theorem readable_sources_undisturbed_locked :
    ∃ s t : Session, prepared (holding true) = some (s, true) ∧ prepared emptied = some (t, true) ∧
      s.messages.length = 2 ∧ s.Impaired ∧
      (s.compile .boundary).1.messages.length = 1 ∧
      (s.compile .boundary).1.forest.declarations ⟨"file:///w/b.nf"⟩ = some [] ∧
      (t.compile .boundary).2 = .failed (.manyErrors 1) ∧ t.readings = s.readings ∧
      TakesOver marked scope (marked.cycle (holding true) scope) (s.compile .boundary).1 true ∧
      (marked.cycle emptied scope).trace.published =
        (marked.cycle (holding true) scope).trace.published := by
  have hlocked : (prepared (holding true)).map (fun p => (p.2, p.1.messages.length, p.1.readings,
      (p.1.sources.get? ⟨"file:///w/b.nf"⟩).map fun u => u.text.isOk)) =
      some (true, 2, [document], some false) := by decide +kernel
  have hdeleted : (prepared emptied).map (fun p => (p.2, p.1.readings,
      (p.1.compile .boundary).2)) = some (true, [document], .failed (.manyErrors 1)) := by
    decide +kernel
  obtain ⟨⟨s, reused⟩, hs, hfacts⟩ := Option.map_eq_some_iff.1 hlocked
  obtain ⟨⟨t, reused'⟩, ht, hothers⟩ := Option.map_eq_some_iff.1 hdeleted
  simp only [Prod.mk.injEq, Option.map_eq_some_iff] at hfacts hothers
  obtain ⟨rfl, hleft, hread, unit, hunit, herror⟩ := hfacts
  obtain ⟨rfl, hread', houtcome⟩ := hothers
  have hreadings : t.readings = s.readings := hread'.trans hread.symm
  obtain ⟨hmessages, hdeclarations, -, -, -, -, -, hcycles, -⟩ := readable_sources_undisturbed s
  obtain ⟨htaken, hsame⟩ := hcycles marked (holding true) scope true hs
  cases htext : unit.text with
  | ok text =>
      rw [htext] at herror
      cases herror
  | error e =>
      refine ⟨s, t, hs, ht, hleft, ⟨_, unit, e, hunit, htext⟩, ?_,
        (hdeclarations _ unit hunit).2 e htext, houtcome, hreadings, htaken,
        (hsame marked emptied t rfl rfl ht hreadings).1⟩
      rw [hmessages, hread]
      decide +kernel

end UnreadableWitness

end PipelineServer.Workspace
