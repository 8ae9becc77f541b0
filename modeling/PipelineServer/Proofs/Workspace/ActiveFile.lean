import PipelineServer.Proofs.Workspace.Indexing
import PipelineServer.Proofs.Workspace.OpenDocuments

/-!
What requests about the active file are answered from.

No cycle is run before a request about the active file. What the index then has for it are the
declarations of the text that was compiled for it last. That is the current text as long as a
session is live. After a failed cycle it need not be: the file of that cycle is active although
nothing was compiled for it.
-/

namespace PipelineServer

variable {F : Frontend}

/-- The session of the last reported cycle, if that before the step was `last`. -/
def Step.reported (step : Step F) (last : Option F.Session) : Option F.Session :=
  if step.report.isSome then step.workspace.sessions.session else last

theorem Step.reported_of_some {step : Step F} {report : Report} (h : step.report = some report)
    (last : Option F.Session) : step.reported last = step.workspace.sessions.session := by
  rw [reported, h, Option.isSome_some, if_pos rfl]

theorem Step.reported_of_none {step : Step F} (h : step.report = none) (last : Option F.Session) :
    step.reported last = last := by
  rw [reported, h, Option.isSome_none]
  rfl

namespace Workspace

/-- The session of the last reported cycle of a run, or that from before the run. -/
def lastReported (w : Workspace F) (last : Option F.Session) : List Arrival → Option F.Session
  | [] => last
  | a :: rest => (w.meet a).workspace.lastReported ((w.meet a).reported last) rest

theorem visit_active {w : Workspace F} {uri : Uri} (h : w.active = some uri) (disk : FileTree) :
    w.visit disk uri = w.idle disk [] := by
  have haway : w.isAway uri = false := by simp [isAway, h]
  rw [visit, haway]
  rfl

open Scanning (Session)

/-- The symbols of the declarations in a text. -/
def declared (uri : Uri) (text : String) : List Symbol :=
  (Source.declarations text.toList).map (Symbol.ofDeclaration uri)

/-- An index in step with a session has the declarations of its texts. -/
theorem InStep.symbols_eq {w : Workspace Scanning.frontend} {session : Session}
    (h : InStep w session) (uri : Uri) :
    w.index.symbols uri = (session.text? uri).elim [] (declared uri) := by
  have hdeclarations := h.settled.declarations_eq uri
  calc
    w.index.symbols uri =
        ((session.forest.declarations uri).getD []).map (Symbol.ofDeclaration uri) := by
      rw [Index.symbols, h.get?_eq]
      cases session.forest.declarations uri <;> rfl
    _ = (session.text? uri).elim [] (declared uri) := by
      rw [hdeclarations]
      cases session.text? uri <;> rfl

/-- What a run preserves: the index is in step with the session of the last reported cycle, and
this is the live session if there is one. -/
structure Answers (w : Workspace Scanning.frontend) (last : Option Scanning.frontend.Session) :
    Prop where
  mirrored : w.Mirrored
  indexed : w.Indexed
  before : last = none → w.index = .empty
  inStep : ∀ session : Session, last = some session → InStep w session
  live : ∀ session : Session, w.sessions.session = some session → last = some session

section Answers

variable {w : Workspace Scanning.frontend} {last : Option Scanning.frontend.Session}

theorem new_answers (state : Scanning.State) (config : Config) :
    (new Scanning.frontend state config).Answers none := by
  refine ⟨new_mirrored state config, new_indexed state config, fun _ => rfl, ?_, ?_⟩
  · intro session hlast
    cases hlast
  · intro session hlive
    cases hlive

theorem meet_answers (hw : w.Answers last) (a : Arrival) :
    (w.meet a).workspace.Answers ((w.meet a).reported last) := by
  have hmirrored := meet_mirrored w a hw.mirrored
  have hindexed := meet_indexed w a hw.indexed
  cases hreport : (w.meet a).report with
  | some report =>
      obtain ⟨session, hlive⟩ := live_of_report hreport
      rw [Step.reported_of_some hreport, hlive]
      refine ⟨hmirrored, hindexed, ?_, ?_, ?_⟩
      · intro hnone
        cases hnone
      · intro other hother
        obtain rfl := Option.some.inj hother
        exact hindexed.inStep session hlive
      · intro other hother
        exact hlive.symm.trans hother
  | none =>
      obtain ⟨hindex, hkept⟩ := meet_of_no_report hreport
      rw [Step.reported_of_none hreport]
      refine ⟨hmirrored, hindexed, ?_, ?_, ?_⟩
      · intro hnone
        rw [hindex, hw.before hnone]
      · intro session hlast
        exact (hw.inStep session hlast).of_index_eq hindex
      · intro session hlive
        exact hw.live session (hkept session hlive)

theorem after_answers (hw : w.Answers last) (arrivals : List Arrival) :
    (w.after arrivals).Answers (w.lastReported last arrivals) := by
  induction arrivals generalizing w last with
  | nil => exact hw
  | cons a rest ih => exact ih (meet_answers hw a)

theorem Answers.symbols_eq (hw : w.Answers last) (uri : Uri) :
    w.index.symbols uri = (last.bind fun s : Session => s.text? uri).elim [] (declared uri) := by
  cases last with
  | none =>
      rw [hw.before rfl]
      rfl
  | some session => exact (hw.inStep session rfl).symbols_eq uri

end Answers

/-- After every run, a request about the active file is answered without a cycle, and the index has
for it exactly the declarations of the text that the session of the last reported cycle has for it,
or nothing. While a session is live, that text is the one the file has now. -/
theorem active_symbols_of_last (state : Scanning.State) (config : Config) (past : List Arrival)
    (uri : Uri) (d : Document) (path : Path) :
    let start := new Scanning.frontend state config
    let w := start.after past
    let compiled := (start.lastReported none past).bind fun s : Session => s.text? uri
    w.active = some uri → w.documents.get? uri = some d → d.path? = some path →
      path.isSource = true →
      (∀ disk, w.visit disk uri = w.idle disk []) ∧
        w.index.symbols uri = compiled.elim [] (declared uri) ∧
        (w.sessions.session.isSome = true →
          compiled = some d.text ∧ w.index.symbols uri = declared uri d.text) := by
  intro start w compiled hactive hopen hpath hsource
  have hanswers : w.Answers (start.lastReported none past) :=
    after_answers (new_answers state config) past
  have hsymbols : w.index.symbols uri = compiled.elim [] (declared uri) := hanswers.symbols_eq uri
  refine ⟨visit_active hactive, hsymbols, ?_⟩
  intro hsome
  obtain ⟨session, hlive⟩ := Option.isSome_iff_exists.1 hsome
  rw [Document.path?, hanswers.mirrored.keyed uri d hopen] at hpath
  have hcompiled : compiled = some d.text :=
    calc
      compiled = session.text? uri := congrArg (Option.bind · fun s : Session => s.text? uri)
        (hanswers.live session hlive)
      _ = some d.text :=
        (hanswers.mirrored.overlaid session hlive).text?_eq hopen hpath hsource
  refine ⟨hcompiled, ?_⟩
  rw [hsymbols, hcompiled, Option.elim_some]

namespace ActiveFileWitness

def start : Workspace Scanning.frontend := new Scanning.frontend (.new ⟨[0x2F]⟩) ⟨none, []⟩

def opened : Arrival := ⟨.bare, .opened ⟨"file:///a.nf"⟩ "process A \x7b\n\x7d\n" 1⟩

/-- A disk on which the output directory of the first session is a plain file, so that it cannot
be deleted as a directory. -/
def jammed : FileTree := FileTree.bare.put [Text.encodeUtf8 "session-1"] (.file [] false)

/-- A second document is opened while the old output cannot be deleted. -/
def failing : Arrival := ⟨jammed, .opened ⟨"file:///b.nf"⟩ "process B \x7b\n\x7d\n" 1⟩

def stale : Workspace Scanning.frontend := start.after [opened, failing]

/-- The document of the failed cycle is open, has a source path and is active, so that a request
about it runs no cycle; but the index, last brought up to date for the other document, has nothing
for it. -/
theorem active_symbols_stale :
    stale.active = some ⟨"file:///b.nf"⟩ ∧
      (stale.visit .bare ⟨"file:///b.nf"⟩).report = none ∧
      stale.documents.text? ⟨"file:///b.nf"⟩ = some "process B \x7b\n\x7d\n" ∧
      Uri.toPath? ⟨"file:///b.nf"⟩ = some (.ofText "/b.nf") ∧
      (Path.ofText "/b.nf").isSource = true ∧
      stale.index.symbols ⟨"file:///b.nf"⟩ = [] ∧
      declared ⟨"file:///b.nf"⟩ "process B \x7b\n\x7d\n" ≠ [] := by
  decide +kernel

/-- The active document is edited, and compiled by the cycle of the edit. -/
def edited : List Arrival :=
  [opened, ⟨.bare, .edited ⟨"file:///a.nf"⟩ 2 [⟨some ⟨⟨0, 8⟩, ⟨0, 9⟩⟩, "C"⟩]⟩]

theorem active_symbols_of_last_edit :
    (start.after edited).sessions.session.isSome = true ∧
      (start.after edited).index.symbols ⟨"file:///a.nf"⟩ =
        declared ⟨"file:///a.nf"⟩ "process C \x7b\n\x7d\n" := by
  have hlive : (start.after edited).sessions.session.isSome = true := by decide +kernel
  have hsource : (Path.ofText "/a.nf").isSource = true := by decide +kernel
  obtain ⟨-, -, hcurrent⟩ :=
    active_symbols_of_last (.new ⟨[0x2F]⟩) ⟨none, []⟩ edited ⟨"file:///a.nf"⟩
      ⟨⟨"file:///a.nf"⟩, "process C \x7b\n\x7d\n", 2⟩ (.ofText "/a.nf") (by decide +kernel)
      (by decide +kernel) (by decide +kernel) hsource
  exact ⟨hlive, (hcurrent hlive).2⟩

end ActiveFileWitness

end Workspace

end PipelineServer
