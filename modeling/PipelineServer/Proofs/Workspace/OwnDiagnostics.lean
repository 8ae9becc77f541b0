import PipelineServer.Proofs.Compiler.Sources
import PipelineServer.Proofs.Workspace.EditorView
import PipelineServer.Proofs.Workspace.OpenDocuments

/-!
Whose diagnostics a file shows.

Sources are kept by uri, but a message only has the path of its source, and what is shown for a file
is grouped by the file uri of that path. So a file shows the diagnostics of all sources that lie at
its path (`Workspace.shownFor_sent`). These are the diagnostics of an open document exactly if its
uri is the file uri of its path, unless it has none, and nothing comes from other sources there.
-/

namespace PipelineServer

variable {F : Frontend}

/-- The diagnostic by which a message is shown, if it is shown at all. -/
def Message.diagnostic? : Message → Option Diagnostic
  | .syntaxError _ span fatal text => some (.ofError span fatal text)
  | .warning _ _ | .exception _ => none

namespace Scanning

/-- The diagnostics of a text. -/
def diagnosticsOf (text : String) : List Diagnostic :=
  (Source.faults text.toList).map fun f => .ofError f.span f.fatal f.text

/-- Every message of the syntax check is shown. -/
theorem map_diagnostic?_check (path : Path) (text : String) :
    (Source.check path text).map Message.diagnostic? = (diagnosticsOf text).map some := by
  simp [Source.check, diagnosticsOf, Source.Fault.toMessage, Message.diagnostic?]

/-- The messages of a source show up in one file, that of its path. -/
theorem diagnosticsIn_check (uri : Uri) (path : Path) (text : String) :
    diagnosticsIn Uri.ofPath? uri (Source.check path text) =
      if Uri.ofPath? path = some uri then diagnosticsOf text else [] := by
  by_cases hplace : Uri.ofPath? path = some uri
  · simp [diagnosticsIn, Source.check, diagnosticsOf, Source.Fault.toMessage,
      Message.diagnosticIn?, hplace, Function.comp_def]
  · simp [diagnosticsIn, Source.check, Source.Fault.toMessage, Message.diagnosticIn?, hplace,
      Function.comp_def]

/-- The diagnostics that a source contributes to a file. -/
def SourceUnit.diagnosticsIn (uri : Uri) (u : SourceUnit) : List Diagnostic :=
  PipelineServer.diagnosticsIn Uri.ofPath? uri (u.check .boundary)

theorem SourceUnit.diagnosticsIn_of_text {u : SourceUnit} {text : String} (h : u.text = .ok text)
    (uri : Uri) :
    u.diagnosticsIn uri = if Uri.ofPath? u.path = some uri then diagnosticsOf text else [] := by
  rw [diagnosticsIn, check_of_text h, diagnosticsIn_check]

theorem diagnosticsOf_eq_nil_iff {path : Path} {text : String} :
    diagnosticsOf text = [] ↔ Source.check path text = [] := by
  rw [diagnosticsOf, Source.check, List.map_eq_nil_iff, List.map_eq_nil_iff]

/-- A source contributes nothing to a file if it lies elsewhere or has no messages. -/
theorem SourceUnit.diagnosticsIn_eq_nil_iff {u : SourceUnit} {uri : Uri} :
    u.diagnosticsIn uri = [] ↔ (Uri.ofPath? u.path = some uri → u.check .boundary = []) := by
  cases htext : u.text with
  | ok text =>
      rw [u.diagnosticsIn_of_text htext, check_of_text htext, ← diagnosticsOf_eq_nil_iff]
      by_cases hplace : Uri.ofPath? u.path = some uri <;> simp [hplace]
  | error e =>
      rw [diagnosticsIn, check_of_error htext]
      simp [PipelineServer.diagnosticsIn]

/-- When all sources together contribute to a file just the diagnostics of the source that has its
uri. -/
theorem Session.Placed.flatMap_eq_iff {s : Session} (h : s.Placed) {uri : Uri} {unit : SourceUnit}
    {text : String} {path : Path} (hunit : s.sources.get? uri = some unit)
    (htext : unit.text = .ok text) (hpath : uri.toPath? = some path) :
    s.sources.values.flatMap (SourceUnit.diagnosticsIn uri) = diagnosticsOf text ↔
      (Uri.ofPath? path = some uri ∨ Source.check path text = []) ∧
        ∀ other u, s.sources.get? other = some u → other ≠ uri →
          Uri.ofPath? u.path = some uri → u.check .boundary = [] := by
  by_cases hown : Uri.ofPath? path = some uri
  · have hplace : Uri.ofPath? unit.path = some uri := by
      rcases (h uri unit hunit).2 with hplace | hlocal
      · exact hplace
      · obtain rfl := Option.some.inj (hpath.symm.trans hlocal)
        exact hown
    have hself : unit.diagnosticsIn uri = diagnosticsOf text := by
      rw [SourceUnit.diagnosticsIn_of_text htext, if_pos hplace]
    rw [← hself, s.sources.flatMap_values_eq_iff hunit]
    simp only [SourceUnit.diagnosticsIn_eq_nil_iff, hown, true_or, true_and]
  · -- nothing lies at a path with this file uri
    have helsewhere : ∀ other u, s.sources.get? other = some u → Uri.ofPath? u.path ≠ some uri :=
      fun other u hu hplace => hown (h.ofPath?_toPath? hu hplace hpath)
    have hnothing : s.sources.values.flatMap (SourceUnit.diagnosticsIn uri) = [] := by
      rw [List.flatMap_eq_nil_iff]
      intro u hmem
      obtain ⟨e, he, rfl⟩ := List.mem_map.1 hmem
      rw [SourceUnit.diagnosticsIn_eq_nil_iff]
      intro hplace
      exact absurd hplace (helsewhere e.1 e.2 (SortedMap.get?_eq_some_iff.2 he))
    rw [hnothing, eq_comm, diagnosticsOf_eq_nil_iff]
    refine ⟨fun hnil => ⟨.inr hnil, ?_⟩, fun hright => hright.1.resolve_left hown⟩
    intro other u hu _ hplace
    exact absurd hplace (helsewhere other u hu)

end Scanning

namespace Workspace

open Scanning (Session SourceUnit diagnosticsOf)

/-- What a run preserves: the live session has the open documents, each source has its place, and
the messages are those of the sources. -/
structure Attributed (w : Workspace Scanning.frontend) : Prop where
  mirrored : w.Mirrored
  placed : ∀ session : Session, w.sessions.session = some session → session.Placed
  checked : ∀ session : Session, w.sessions.session = some session → session.Checked

theorem new_attributed (state : Scanning.State) (config : Config) :
    (new Scanning.frontend state config).Attributed := by
  refine ⟨new_mirrored state config, ?_, ?_⟩
  · intro session hlive
    cases hlive
  · intro session hlive
    cases hlive

theorem meet_attributed (w : Workspace Scanning.frontend) (a : Arrival) (hw : w.Attributed) :
    (w.meet a).workspace.Attributed := by
  refine ⟨meet_mirrored w a hw.mirrored, ?_, ?_⟩
  · intro session hlive
    cases meet_lives hw.mirrored.numbered hlive with
    | kept hlive h => exact hw.placed session hlive
    | updated hintake hold hdocuments h =>
        rw [h.compiled]
        exact Session.compile_placed (Session.foldl_reload_placed (hw.placed _ hold) _) _
    | built hintake hdocuments h =>
        rw [h.compiled]
        have hkeyed := hintake.documents.keyed hw.mirrored.keyed
        exact Session.compile_placed (Session.build_placed hkeyed _ _ _) _
  · intro session hlive
    cases meet_lives hw.mirrored.numbered hlive with
    | kept hlive h => exact hw.checked session hlive
    | updated hintake hold hdocuments h =>
        rw [h.compiled]
        exact Session.compile_checked _
    | built hintake hdocuments h =>
        rw [h.compiled]
        exact Session.compile_checked _

/-- After a reported cycle, the snapshot has for each file the messages of the live session. -/
theorem snapshot_of_report {w : Workspace F} {a : Arrival} {report : Report} {session : F.Session}
    (hreport : (w.meet a).report = some report)
    (hlive : (w.meet a).workspace.sessions.session = some session) (uri : Uri) :
    ((w.meet a).workspace.snapshot.get? uri).getD [] =
      diagnosticsIn Uri.ofPath? uri (F.messages session) := by
  have hmessages : (w.meet a).messages? = some (F.messages session) := by
    rw [Step.messages?, hreport, hlive]
    rfl
  rcases w.meet_published a with ⟨hnone, -, -⟩ | ⟨messages, hsome, -, hsnapshot⟩
  · rw [hnone] at hmessages
    cases hmessages
  · obtain rfl := Option.some.inj (hsome.symm.trans hmessages)
    rw [hsnapshot]
    exact Snapshot.getD_foldl_addMessage Uri.ofPath? _ ∅ uri

/-- After a reported cycle, every file shows the diagnostics of the sources at its path, in the
order of their uris. -/
theorem shownFor_sent {state : Scanning.State} {config : Config} {past : List Arrival}
    {now : Arrival} {report : Report} {session : Session}
    (hreport : (((new Scanning.frontend state config).after past).meet now).report = some report)
    (hlive : (((new Scanning.frontend state config).after past).meet now).workspace.sessions.session
      = some session) (hchecked : session.Checked) (uri : Uri) :
    ((new Scanning.frontend state config).sent (past ++ [now])).shownFor uri =
      session.sources.values.flatMap (SourceUnit.diagnosticsIn uri) := by
  have hbefore : PublishSet.shownFor [] uri =
      ((new Scanning.frontend state config).snapshot.get? uri).getD [] := rfl
  have hshown := after_shown hbefore (past ++ [now])
  rw [List.nil_append, after_append] at hshown
  rw [hshown]
  refine (snapshot_of_report hreport hlive uri).trans ?_
  have hmessages : Scanning.frontend.messages session = session.messages := rfl
  rw [hmessages, hchecked, diagnosticsIn, List.filterMap_flatMap]
  rfl

/-- After every run, a cycle that is reported on leaves a session such that every open document with
a source path shows exactly the messages of the syntax check of its text, one by one in order, if
its uri is the file uri of its path or it has no messages, and no other source of the session that
lies at a path with this file uri has messages. -/
theorem open_document_shows_own (state : Scanning.State) (config : Config) (past : List Arrival)
    (now : Arrival) (report : Report) :
    let start := new Scanning.frontend state config
    let step := (start.after past).meet now
    step.report = some report →
      ∃ session : Session, step.workspace.sessions.session = some session ∧
        ∀ uri d path, step.workspace.documents.get? uri = some d → d.path? = some path →
          path.isSource = true → (Uri.ofPath? path = some uri ∨ Source.check path d.text = []) →
          (∀ other unit, session.sources.get? other = some unit → other ≠ uri →
            Uri.ofPath? unit.path = some uri → unit.check .boundary = []) →
          ((start.sent (past ++ [now])).shownFor uri).map some =
            (Source.check path d.text).map Message.diagnostic? := by
  intro start step hreport
  have hattributed : step.workspace.Attributed :=
    meet_attributed _ now (after_induction meet_attributed (new_attributed state config) past)
  obtain ⟨session, hlive⟩ := live_of_report hreport
  refine ⟨session, hlive, ?_⟩
  intro uri d path hopen hpath hsource hown hsilent
  rw [Document.path?, hattributed.mirrored.keyed uri d hopen] at hpath
  obtain ⟨unit, hunit, htext⟩ :=
    hattributed.mirrored.overlaid session hlive uri d path hopen hpath hsource
  have hplaced := hattributed.placed session hlive
  rw [Scanning.map_diagnostic?_check,
    shownFor_sent hreport hlive (hattributed.checked session hlive) uri,
    (hplaced.flatMap_eq_iff hunit htext hpath).2 ⟨hown, hsilent⟩]

namespace OwnDiagnosticsWitness

def start : Workspace Scanning.frontend := new Scanning.frontend (.new ⟨[0x2F]⟩) ⟨none, []⟩

/-- A document with a stray brace is opened under a uri that is not the file uri of its path. -/
def detour : Arrival := ⟨.bare, .opened ⟨"file:///w//a.nf"⟩ "\x7d\n" 1⟩

/-- The file uri of the same path is opened with a text that has no fault. -/
def direct : Arrival := ⟨.bare, .opened ⟨"file:///w/a.nf"⟩ "process A \x7b\n\x7d\n" 1⟩

/-- Both documents are open and have a source path. The faulty one shows nothing, and the other one
shows its diagnostic. -/
theorem detour_shows_elsewhere :
    ((start.after [detour]).meet direct).report = some ⟨⟨1⟩, true, 1, 1⟩ ∧
      (start.after [detour, direct]).documents.text? ⟨"file:///w//a.nf"⟩ = some "\x7d\n" ∧
      Uri.toPath? ⟨"file:///w//a.nf"⟩ = some (.ofText "/w//a.nf") ∧
      (Path.ofText "/w//a.nf").isSource = true ∧
      Source.check (.ofText "/w//a.nf") "\x7d\n" ≠ [] ∧
      (start.sent [detour, direct]).shownFor ⟨"file:///w//a.nf"⟩ = [] ∧
      Source.check (.ofText "/w/a.nf") "process A \x7b\n\x7d\n" = [] ∧
      (start.sent [detour, direct]).shownFor ⟨"file:///w/a.nf"⟩ =
        [⟨⟨⟨0, 0⟩, ⟨0, 1⟩⟩, .error, "Unexpected '\x7d'"⟩] := by
  decide +kernel

/-- Now the detour has no fault, and the file uri of the path has two. -/
def past : List Arrival :=
  [⟨.bare, .opened ⟨"file:///w//a.nf"⟩ "process A \x7b\n\x7d\n" 1⟩]

def now : Arrival := ⟨.bare, .opened ⟨"file:///w/a.nf"⟩ "\x7d\n/*" 1⟩

theorem open_document_shows_own_two :
    ((start.after past).meet now).report = some ⟨⟨1⟩, true, 2, 1⟩ ∧
      ((start.sent (past ++ [now])).shownFor ⟨"file:///w/a.nf"⟩).map some =
        (Source.check (.ofText "/w/a.nf") "\x7d\n/*").map Message.diagnostic? ∧
      (Source.check (.ofText "/w/a.nf") "\x7d\n/*").length = 2 := by
  have hreport : ((start.after past).meet now).report = some ⟨⟨1⟩, true, 2, 1⟩ := by
    decide +kernel
  have hsilent : ((start.after past).meet now).workspace.sessions.session.all (fun s : Session =>
      s.sources.entries.all fun e =>
        e.1 = ⟨"file:///w/a.nf"⟩ ∨ (e.2.check .boundary).isEmpty = true) = true := by
    decide +kernel
  refine ⟨hreport, ?_, by decide +kernel⟩
  obtain ⟨session, hlive, hshows⟩ :=
    open_document_shows_own (.new ⟨[0x2F]⟩) ⟨none, []⟩ past now _ hreport
  refine hshows ⟨"file:///w/a.nf"⟩ ⟨⟨"file:///w/a.nf"⟩, "\x7d\n/*", 1⟩ (.ofText "/w/a.nf")
    (by decide +kernel) (by decide +kernel) (by decide +kernel) (.inl (by decide +kernel)) ?_
  intro other unit hunit hne hplace
  rw [show ((start.after past).meet now).workspace.sessions.session = some session from hlive,
    Option.all_some, List.all_eq_true] at hsilent
  have hentry := of_decide_eq_true (hsilent (other, unit) (SortedMap.get?_eq_some_iff.1 hunit))
  exact List.isEmpty_iff.1 (hentry.resolve_left hne)

end OwnDiagnosticsWitness

end Workspace

end PipelineServer
