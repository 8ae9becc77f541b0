import PipelineServer.Compiler.Scanning
import PipelineServer.Proofs.Diagnostics
import PipelineServer.Proofs.Workspace.Run

/-!
What the editor shows is what the workspace remembers.

An editor shows for each file what was sent for it last. The workspace remembers only one snapshot,
which every reported cycle replaces. The two never drift apart, whatever frontend is driven and
however its compilations end, and a file that loses its diagnostics is cleared once.
-/

namespace PipelineServer

variable {F : Frontend}

/-- The messages that the cycle of a step worked from, if it is reported on. However the compilation
ended, these are the messages its session has collected (`Workspace.collect_judge`). -/
def Step.messages? (step : Step F) : Option (List Message) :=
  step.report.bind fun _ => step.workspace.sessions.session.map F.messages

namespace Workspace

/-- All that is sent to the editor during a run. -/
def sent (w : Workspace F) : List Arrival → PublishSet
  | [] => []
  | a :: rest => (w.meet a).trace.published ++ (w.meet a).workspace.sent rest

/-- The messages of the last cycle of a run that is reported on, or those from before the run. -/
def lastMessages (w : Workspace F) (before : List Message) : List Arrival → List Message
  | [] => before
  | a :: rest =>
      (w.meet a).workspace.lastMessages ((w.meet a).messages?.getD before) rest

/-- What a step means for the editor: it sends nothing and keeps the snapshot, or it replaces the
snapshot by the grouping of its messages and sends the difference. -/
theorem meet_published (w : Workspace F) (a : Arrival) :
    ((w.meet a).messages? = none ∧ (w.meet a).trace.published = [] ∧
      (w.meet a).workspace.snapshot = w.snapshot) ∨
    ∃ messages, (w.meet a).messages? = some messages ∧
      (w.meet a).trace.published =
        Snapshot.publishSet w.snapshot (w.meet a).workspace.snapshot ∧
      (w.meet a).workspace.snapshot = Snapshot.ofMessages Uri.ofPath? messages := by
  cases w.handle_reaction a.disk a.event with
  | quiet h =>
      left
      refine ⟨?_, h.published, h.snapshot⟩
      rw [Step.messages?, meet, h.report]
      rfl
  | abandoned hintake h =>
      left
      refine ⟨?_, h.published, ?_⟩
      · rw [Step.messages?, meet, h.report]
        rfl
      · rw [meet, h.snapshot, hintake.snapshot]
  | @completed _ _ _ _ session hintake h =>
      right
      refine ⟨F.messages session, ?_, ?_, h.snapshot⟩
      · rw [Step.messages?, meet, h.report, h.live]
        rfl
      · rw [meet, h.published, hintake.snapshot]

/-- One step keeps an editor that shows the snapshot up to date. -/
theorem meet_shown {w : Workspace F} {before : PublishSet} {uri : Uri}
    (hbefore : before.shownFor uri = (w.snapshot.get? uri).getD []) (a : Arrival) :
    PublishSet.shownFor (before ++ (w.meet a).trace.published) uri =
      ((w.meet a).workspace.snapshot.get? uri).getD [] := by
  rcases w.meet_published a with ⟨-, hpublished, hsnapshot⟩ | ⟨_, -, hpublished, -⟩
  · rw [hpublished, hsnapshot, List.append_nil, hbefore]
  · rw [hpublished]
    exact Snapshot.shownFor_publishSet hbefore _

theorem after_shown {w : Workspace F} {before : PublishSet} {uri : Uri}
    (hbefore : before.shownFor uri = (w.snapshot.get? uri).getD []) (arrivals : List Arrival) :
    PublishSet.shownFor (before ++ w.sent arrivals) uri =
      ((w.after arrivals).snapshot.get? uri).getD [] := by
  induction arrivals generalizing w before with
  | nil => rw [sent, List.append_nil, after, hbefore]
  | cons a rest ih =>
      rw [sent, after, ← List.append_assoc]
      exact ih (meet_shown hbefore a)

theorem after_snapshot {w : Workspace F} {before : List Message}
    (hbefore : w.snapshot = Snapshot.ofMessages Uri.ofPath? before) (arrivals : List Arrival) :
    (w.after arrivals).snapshot =
      Snapshot.ofMessages Uri.ofPath? (w.lastMessages before arrivals) := by
  induction arrivals generalizing w before with
  | nil => exact hbefore
  | cons a rest ih =>
      rw [after, lastMessages]
      apply ih
      rcases w.meet_published a with ⟨hmessages, -, hsnapshot⟩ | ⟨_, hmessages, -, hsnapshot⟩
      · rw [hsnapshot, hmessages, hbefore, Option.getD_none]
      · rw [hsnapshot, hmessages, Option.getD_some]

/-- Nothing is sent for a file that has no diagnostics before and after the step. -/
theorem meet_sentFor_eq_nil {w : Workspace F} {a : Arrival} {uri : Uri}
    (hbefore : uri ∉ w.snapshot) (hafter : uri ∉ (w.meet a).workspace.snapshot) :
    (w.meet a).trace.published.sentFor uri = [] := by
  rcases w.meet_published a with ⟨-, hpublished, -⟩ | ⟨_, -, hpublished, -⟩
  · rw [hpublished, PublishSet.sentFor_nil]
  · rw [hpublished, Snapshot.sentFor_publishSet, SortedMap.not_mem_iff.1 hafter]
    simp [hbefore]

/-- A file that loses its diagnostics in a step is sent one empty list. -/
theorem meet_sentFor_eq_clear {w : Workspace F} {a : Arrival} {uri : Uri}
    (hbefore : uri ∈ w.snapshot) (hafter : uri ∉ (w.meet a).workspace.snapshot) :
    (w.meet a).trace.published.sentFor uri = [[]] := by
  rcases w.meet_published a with ⟨-, -, hsnapshot⟩ | ⟨_, -, hpublished, -⟩
  · rw [hsnapshot] at hafter
    exact absurd hbefore hafter
  · rw [hpublished, Snapshot.sentFor_publishSet, SortedMap.not_mem_iff.1 hafter]
    simp [hbefore]

/-- Nothing is sent for a file as long as it has no diagnostics. -/
theorem sentFor_sent_eq_nil {w : Workspace F} {arrivals : List Arrival} {uri : Uri}
    (hclean : ∀ n ≤ arrivals.length, uri ∉ (w.after (arrivals.take n)).snapshot) :
    (w.sent arrivals).sentFor uri = [] := by
  induction arrivals generalizing w with
  | nil => rfl
  | cons a rest ih =>
      have hbefore : uri ∉ w.snapshot := hclean 0 (Nat.zero_le _)
      have hrest : ∀ n ≤ rest.length,
          uri ∉ ((w.meet a).workspace.after (rest.take n)).snapshot := by
        intro n hn
        exact hclean (n + 1) (Nat.succ_le_succ hn)
      rw [sent, PublishSet.sentFor_append, ih hrest,
        meet_sentFor_eq_nil hbefore (hrest 0 (Nat.zero_le _))]
      rfl

/-- For every frontend and after every run, the editor shows for each file what the snapshot has for
it, and the snapshot is the grouping by file of the messages of the last reported cycle. A file that
loses its diagnostics is sent one empty list, and nothing more until it has diagnostics again. -/
theorem editor_shows_snapshot (F : Frontend) (state : F.State) (config : Config)
    (past : List Arrival) (uri : Uri) :
    let start := new F state config
    (start.sent past).shownFor uri = ((start.after past).snapshot.get? uri).getD [] ∧
      (start.after past).snapshot.get? uri =
        grouped Uri.ofPath? (start.lastMessages [] past) uri ∧
      ∀ now later, uri ∈ (start.after past).snapshot →
        (∀ n ≤ later.length, uri ∉ (start.after (past ++ now :: later.take n)).snapshot) →
        ((start.after past).sent (now :: later)).sentFor uri = [[]] := by
  intro start
  have hshown : PublishSet.shownFor [] uri = (start.snapshot.get? uri).getD [] := rfl
  have hsnapshot : start.snapshot = Snapshot.ofMessages Uri.ofPath? [] := rfl
  refine ⟨after_shown hshown past, ?_, ?_⟩
  · rw [after_snapshot hsnapshot past, Snapshot.get?_ofMessages]
  · intro now later hhad hclean
    have hrest : ∀ n ≤ later.length,
        uri ∉ (((start.after past).meet now).workspace.after (later.take n)).snapshot := by
      intro n hn
      have hn' := hclean n hn
      rw [after_append] at hn'
      exact hn'
    rw [sent, PublishSet.sentFor_append, sentFor_sent_eq_nil hrest,
      meet_sentFor_eq_clear hhad (hrest 0 (Nat.zero_le _))]
    rfl

namespace EditorViewWitness

def uri : Uri := ⟨"file:///a.nf"⟩

def start : Workspace Scanning.frontend := new Scanning.frontend (.new ⟨[0x2F]⟩) ⟨none, []⟩

/-- A document with an unclosed brace is opened. -/
def past : List Arrival := [⟨.bare, .opened uri "process A \x7b\n" 1⟩]

/-- The brace is closed. -/
def now : Arrival := ⟨.bare, .edited uri 2 [⟨none, "process A \x7b\n\x7d\n"⟩]⟩

/-- The document is saved and compiled again. -/
def later : List Arrival := [⟨.bare, .saved uri⟩, ⟨.bare, .cycle ∅⟩]

/-- The diagnostic of the open brace is shown, and cleared once when the brace is closed. -/
theorem editor_shows_snapshot_closing :
    (start.sent past).shownFor uri ≠ [] ∧
      (uri ∈ (start.after past).snapshot ∧
        ∀ n ≤ later.length, uri ∉ (start.after (past ++ now :: later.take n)).snapshot) ∧
      ((start.after past).sent (now :: later)).sentFor uri = [[]] := by
  have hhad : uri ∈ (start.after past).snapshot := by decide +kernel
  have hclean : ∀ n ≤ later.length,
      uri ∉ (start.after (past ++ now :: later.take n)).snapshot := by
    decide +kernel
  have hshows := editor_shows_snapshot Scanning.frontend (.new ⟨[0x2F]⟩) ⟨none, []⟩ past uri
  exact ⟨by decide +kernel, ⟨hhad, hclean⟩, hshows.2.2 now later hhad hclean⟩

end EditorViewWitness

end Workspace

end PipelineServer
