import PipelineServer.Proofs.Path
import PipelineServer.Proofs.Text.Utf8
import PipelineServer.Proofs.Workspace.Calls
import PipelineServer.Proofs.Workspace.Scanning

/-!
When a session is kept, and what a new one gets.

The scanning frontend keeps a session exactly as long as the configuration is the one it was built
from. A new session is numbered above all before it, and its output goes where none of theirs went.
Configurations drift apart only by the root: whenever a session is live, the classpath is still its
own.
-/

namespace PipelineServer

theorem Config.classpath_of_same {a b : Config} (h : a.same b = true) :
    a.classpath = b.classpath := by
  rw [same, Bool.and_eq_true] at h
  exact beq_iff_eq.1 h.2

/-- The event brings a classpath, be it the one that is there. -/
def Event.BringsClasspath : Event → Prop
  | .settings _ | .classpath _ => True
  | _ => False

theorem Event.reroot_classpath (event : Event) (config : Config) :
    (event.reroot config).classpath = config.classpath := by
  cases event <;> rfl

namespace Scanning

/-- The bytes of a digit have no slash among them. -/
theorem slash_not_mem_digit {c : Char} (h : c.isDigit = true) :
    Path.slash ∉ String.utf8EncodeChar c := by
  obtain ⟨hlow, hhigh⟩ : 48 ≤ c.val.toNat ∧ c.val.toNat ≤ 57 := Char.isDigit_iff_toNat.1 h
  have hencoded : String.utf8EncodeChar c = [UInt8.ofNat c.val.toNat] := if_pos (by omega)
  rw [hencoded, List.mem_singleton]
  intro hslash
  have hnat : 47 = c.val.toNat % 256 := (congrArg UInt8.toNat hslash).trans UInt8.toNat_ofNat'
  omega

theorem slash_not_mem_number (n : Nat) : Path.slash ∉ Text.encodeUtf8 (toString n) := by
  rw [Nat.toString_eq_ofList_toDigits, Text.encodeUtf8_ofList, List.mem_flatMap]
  rintro ⟨c, hc, hslash⟩
  exact slash_not_mem_digit (Nat.isDigit_of_mem_toDigits (by decide) (by decide) hc) hslash

theorem outputName_eq (id : SessionId) :
    outputName id = Text.encodeUtf8 "session-" ++ Text.encodeUtf8 (toString id.number) :=
  Text.encodeUtf8_append _ _

/-- The name of an output directory is one step of a path. -/
theorem outputName_readable (id : SessionId) : (Component.name (outputName id)).Readable := by
  have hfront : Text.encodeUtf8 "session-" =
      [0x73, 0x65, 0x73, 0x73, 0x69, 0x6F, 0x6E, 0x2D] := by
    decide +kernel
  have hname := outputName_eq id
  rw [hfront] at hname
  constructor
  · rw [Component.spelling, hname, List.mem_append, not_or]
    exact ⟨by decide, slash_not_mem_number id.number⟩
  · rw [Component.spelling, hname]
    rfl

/-- Sessions with different numbers have different names. -/
theorem outputName_injective {id other : SessionId} (h : outputName id = outputName other) :
    id = other := by
  rw [outputName_eq, outputName_eq, List.append_cancel_left_eq] at h
  have hdigits : Nat.toDigits 10 id.number = Nat.toDigits 10 other.number := by
    have htext := Text.encodeUtf8_injective h
    rwa [Nat.toString_eq_ofList_toDigits, Nat.toString_eq_ofList_toDigits, String.ofList_inj]
      at htext
  have hnumber : id.number = other.number :=
    calc
      id.number = Nat.ofDigitChars 10 (Nat.toDigits 10 id.number) 0 :=
        Nat.ofDigitChars_ten_toDigits.symm
      _ = Nat.ofDigitChars 10 (Nat.toDigits 10 other.number) 0 := by rw [hdigits]
      _ = other.number := Nat.ofDigitChars_ten_toDigits
  exact congrArg SessionId.mk hnumber

/-- In one place, the output of sessions with different numbers is kept apart. -/
theorem same_output_iff (base : Path) {id other : SessionId} :
    (base.join (outputName id)).same (base.join (outputName other)) = true ↔ id = other := by
  constructor
  · intro h
    have hcomponents := beq_iff_eq.1 h
    have hname :
        (base.join (outputName id)).fileName? = (base.join (outputName other)).fileName? := by
      rw [Path.fileName?, hcomponents, Path.fileName?]
    rw [Path.fileName?_join base (outputName_readable id),
      Path.fileName?_join base (outputName_readable other)] at hname
    exact outputName_injective (Option.some.inj hname)
  · rintro rfl
    exact beq_self_eq_true _

end Scanning

namespace Workspace

open Scanning (Session)

/-- Where the output directories of sessions are made. -/
def outputBase (w : Workspace Scanning.frontend) : Path :=
  Scanning.State.outputBase w.sessions.frontend

/-- From `w` to `later`, numbers only go up and output goes to the same place. -/
structure Onward (w later : Workspace Scanning.frontend) : Prop where
  base : later.outputBase = w.outputBase
  made : w.made ≤ later.made

theorem Onward.trans {w later last : Workspace Scanning.frontend} (h : Onward w later)
    (h' : Onward later last) : Onward w last :=
  ⟨h'.base.trans h.base, Nat.le_trans h.made h'.made⟩

theorem onward_of_sessions {w later : Workspace Scanning.frontend}
    (h : later.sessions = w.sessions) : Onward w later := by
  have hstate : later.sessions.frontend = w.sessions.frontend := congrArg Manager.frontend h
  refine ⟨congrArg Scanning.State.outputBase hstate, ?_⟩
  exact Nat.le_of_eq (congrArg Scanning.State.made hstate).symm

/-- The frontend always comes up with a session, and makes at most one. -/
theorem configured_onward {w : Workspace Scanning.frontend} {purged : FileTree}
    {state : Scanning.State} {answer : Except FrontendError Session}
    (h : w.configured purged = (state, answer)) :
    state.outputBase = w.outputBase ∧ w.made ≤ state.made ∧ ∃ session, answer = .ok session := by
  rcases w.configured_cases purged with ⟨old, -, -, hanswer⟩ | ⟨-, hanswer⟩
  · obtain ⟨rfl, rfl⟩ := Prod.mk.inj (h.symm.trans hanswer)
    exact ⟨rfl, Nat.le_refl _, _, rfl⟩
  · obtain ⟨rfl, rfl⟩ := Prod.mk.inj (h.symm.trans hanswer)
    exact ⟨rfl, Nat.le_succ _, _, rfl⟩

theorem cycle_onward (w : Workspace Scanning.frontend) (disk : FileTree) (scope : UriSet) :
    Onward w (w.cycle disk scope).workspace := by
  have hcourse := w.cycle_course disk scope
  generalize w.cycleCalls disk scope = calls at hcourse
  cases hcourse with
  | jammed hpurge habandoned hdocuments hfrontend =>
      refine ⟨congrArg Scanning.State.outputBase hfrontend, ?_⟩
      exact Nat.le_of_eq (congrArg Scanning.State.made hfrontend).symm
  | refused hpurge hconfigured =>
      obtain ⟨-, -, session, hok⟩ := configured_onward hconfigured
      cases hok
  | completed h =>
      obtain ⟨hbase, hmade, -⟩ := configured_onward h.configured
      obtain ⟨outcome, hcompile⟩ := h.compiled
      -- compiling leaves the state of the frontend alone
      obtain ⟨rfl, -⟩ := Prod.mk.inj hcompile
      refine ⟨(congrArg Scanning.State.outputBase h.frontend).trans hbase, ?_⟩
      exact Nat.le_trans hmade (Nat.le_of_eq (congrArg Scanning.State.made h.frontend).symm)

theorem meet_onward (w : Workspace Scanning.frontend) (a : Arrival) :
    Onward w (w.meet a).workspace := by
  cases hbegun : w.begun? a.event with
  | none =>
      obtain ⟨trace, -, hidle⟩ := handle_idle hbegun a.disk
      apply onward_of_sessions
      rw [meet, hidle]
      rfl
  | some begun =>
      obtain ⟨active, hworkspace⟩ := (handle_relays hbegun a.disk).workspace
      apply (onward_of_sessions (begun?_intake hbegun).sessions).trans
      apply (begun.cycle_onward a.disk a.event.scope).trans
      apply onward_of_sessions
      rw [meet, hworkspace]

theorem after_onward (w : Workspace Scanning.frontend) (arrivals : List Arrival) :
    Onward w (w.after arrivals) := by
  induction arrivals generalizing w with
  | nil => exact onward_of_sessions rfl
  | cons a rest ih => exact (meet_onward w a).trans (ih _)

/-- What a run preserves: the live session has a number that was given out, the output directory
of that number, and the classpath of the workspace. -/
structure Lodged (w : Workspace Scanning.frontend) : Prop where
  numbered : w.Numbered
  directory : ∀ session : Session, w.sessions.session = some session →
    session.outputDirectory = w.outputBase.join (Scanning.outputName session.id)
  classpath : ∀ session : Session, w.sessions.session = some session →
    session.config.classpath = w.config.classpath

theorem new_lodged (state : Scanning.State) (config : Config) :
    (new Scanning.frontend state config).Lodged := by
  refine ⟨?_, ?_, ?_⟩
  · intro session hlive
    cases hlive
  · intro session hlive
    cases hlive
  · intro session hlive
    cases hlive

/-- A session that is live without a report was live before, and the classpath is as it was. -/
theorem classpath_of_no_report {w : Workspace Scanning.frontend} {a : Arrival}
    (hreport : (w.meet a).report = none) {session : Session}
    (hlive : (w.meet a).workspace.sessions.session = some session) :
    (w.meet a).workspace.config.classpath = w.config.classpath := by
  cases hbegun : w.begun? a.event with
  | none =>
      obtain ⟨trace, -, hidle⟩ := handle_idle hbegun a.disk
      rw [meet, hidle]
      exact a.event.reroot_classpath w.config
  | some begun =>
      -- the cycle has failed, and no session is live
      have hrelays := handle_relays hbegun a.disk
      have hcycle := hrelays.report.symm.trans hreport
      rcases begun.cycle_cases a.disk a.event.scope with habandoned | ⟨_, _, _, _, hcompleted⟩
      · rw [meet, (habandoned.relay hrelays).session] at hlive
        cases hlive
      · rw [hcompleted.report] at hcycle
        cases hcycle

theorem meet_lodged (w : Workspace Scanning.frontend) (a : Arrival) (hw : w.Lodged) :
    (w.meet a).workspace.Lodged := by
  refine ⟨meet_numbered w a hw.numbered, ?_, ?_⟩
  · intro session hlive
    rw [(meet_onward w a).base]
    cases meet_lives hw.numbered hlive with
    | kept hlive h => exact hw.directory session hlive
    | updated hintake hold hdocuments h hconfig =>
        rw [h.outputDirectory_eq, h.id_eq]
        exact hw.directory _ hold
    | built hintake hdocuments h hconfig =>
        rw [h.outputDirectory_eq, hintake.sessions]
        rfl
  · intro session hlive
    cases hreport : (w.meet a).report with
    | none =>
        rw [classpath_of_no_report hreport hlive]
        exact hw.classpath session ((meet_of_no_report hreport).2 session hlive)
    | some report => exact Config.classpath_of_same (same_of_report hw.numbered hreport hlive)

theorem after_lodged (state : Scanning.State) (config : Config) (arrivals : List Arrival) :
    ((new Scanning.frontend state config).after arrivals).Lodged :=
  after_induction meet_lodged (new_lodged state config) arrivals

/-- Two sessions of a run with different numbers have their output in different directories. -/
theorem Lodged.output_apart {w later : Workspace Scanning.frontend} (hw : w.Lodged)
    (hlater : later.Lodged) (honward : Onward w later) {old session : Session}
    (hold : w.sessions.session = some old) (hlive : later.sessions.session = some session)
    (hne : old.id ≠ session.id) : old.outputDirectory.same session.outputDirectory = false := by
  rw [hw.directory old hold, hlater.directory session hlive, honward.base, Bool.eq_false_iff]
  intro hsame
  exact hne ((Scanning.same_output_iff w.outputBase).1 hsame)

section Report

variable {w : Workspace Scanning.frontend} {a : Arrival} {report : Report}

/-- A report is about the live session. -/
theorem session_of_report (hreport : (w.meet a).report = some report) :
    ∃ session : Session, (w.meet a).workspace.sessions.session = some session ∧
      session.id = report.session := by
  obtain ⟨_, _, _, _, session, -, h⟩ := completed_of_meet_report hreport
  exact ⟨session, h.live, (h.session_eq hreport).symm⟩

/-- A session is kept exactly if one is live and was built from the configuration of the cycle. -/
theorem reused_iff_same (hw : w.Numbered) (hreport : (w.meet a).report = some report) :
    report.reused = true ↔ ∃ old : Session, w.sessions.session = some old ∧
      old.config.same (w.meet a).workspace.config = true := by
  obtain ⟨begun, _, _, made, session, hbegun, h⟩ := completed_of_meet_report hreport
  have hintake := begun?_intake hbegun
  rw [h.reused_eq hreport, h.config, ← hintake.sessions]
  exact h.reuses_iff_same (hintake.numbered hw)

/-- The session of a report is the one from before, or it has the next number and the configuration
of the cycle. -/
theorem kept_or_new (hw : w.Numbered) (hreport : (w.meet a).report = some report)
    {session : Session} (hlive : (w.meet a).workspace.sessions.session = some session) :
    (report.reused = true ∧ ∃ old : Session, w.sessions.session = some old ∧
      session.id = old.id ∧ session.config = old.config) ∨
    (report.reused = false ∧ session.id = ⟨w.made + 1⟩ ∧
      session.config = (w.meet a).workspace.config) := by
  cases meet_lives hw hlive with
  | kept hlive h =>
      rw [h.report] at hreport
      cases hreport
  | updated hintake hold hdocuments h hconfig =>
      left
      have hreused := h.reused
      rw [hreport] at hreused
      exact ⟨Option.some.inj hreused, _, hold, h.id_eq, h.config_eq⟩
  | built hintake hdocuments h hconfig =>
      right
      have hreused := h.reused
      rw [hreport] at hreused
      refine ⟨Option.some.inj hreused, ?_, h.config_eq.trans hconfig.symm⟩
      rw [h.id_eq, made, hintake.sessions]
      rfl

/-- The cycle of an event that brings a classpath has another one than before. -/
theorem classpath_of_begun {begun : Workspace Scanning.frontend} {event : Event}
    (hevent : event.BringsClasspath) (hbegun : w.begun? event = some begun) :
    begun.config.classpath ≠ w.config.classpath := by
  have hreclassed : ∀ entries, w.reclassed? entries = some begun →
      begun.config.classpath ≠ w.config.classpath := by
    intro entries h
    obtain ⟨hne, rfl⟩ := reclassed?_eq_some h
    exact hne
  cases event with
  | settings payload =>
      obtain ⟨entries, -, h⟩ := Option.bind_eq_some_iff.1 hbegun
      exact hreclassed entries h
  | classpath entries => exact hreclassed entries hbegun
  | _ => cases hevent

theorem not_reused_of_classpath (hw : w.Lodged) (hreport : (w.meet a).report = some report)
    (hevent : a.event.BringsClasspath) : report.reused = false := by
  obtain ⟨begun, _, _, made, session, hbegun, h⟩ := completed_of_meet_report hreport
  rw [Bool.eq_false_iff]
  intro hreused
  obtain ⟨old, hlive, hsame⟩ := (reused_iff_same hw.numbered hreport).1 hreused
  rw [h.config] at hsame
  apply classpath_of_begun hevent hbegun
  rw [← Config.classpath_of_same hsame, hw.classpath old hlive]

end Report

/-- The numbers of all reports have been given out. -/
theorem number_le_made {w : Workspace Scanning.frontend} (hw : w.Numbered)
    {arrivals : List Arrival} {report : Report} (hreport : report ∈ w.reports arrivals) :
    report.session.number ≤ (w.after arrivals).made := by
  induction arrivals generalizing w with
  | nil => cases hreport
  | cons a rest ih =>
      have hmet := meet_numbered w a hw
      rcases List.mem_append.1 hreport with hfirst | hrest
      · obtain ⟨session, hlive, hid⟩ := session_of_report (Option.mem_toList.1 hfirst)
        rw [← hid]
        exact Nat.le_trans (hmet session hlive) (after_onward _ rest).made
      · exact ih hmet hrest

/-- During every run, a session is kept by a cycle exactly if the configuration is the one it was
built from. Otherwise a new session is built from the configuration of the workspace; it has a
number above all that were reported before, and its output directory is that of no session before.
Either way the configuration of the live session is then that of the workspace. As at all times a
live session has the classpath of the workspace, no event that brings a classpath keeps a
session. -/
theorem session_kept_iff_same_config (state : Scanning.State) (config : Config)
    (past : List Arrival) (now : Arrival) :
    let start := new Scanning.frontend state config
    let w := start.after past
    let step := w.meet now
    (∀ session : Session, w.sessions.session = some session →
      session.config.classpath = w.config.classpath) ∧
    ∀ report, step.report = some report →
      (report.reused = true ↔ ∃ old : Session, w.sessions.session = some old ∧
        old.config.same step.workspace.config = true) ∧
      (now.event.BringsClasspath → report.reused = false) ∧
      ∃ session : Session, step.workspace.sessions.session = some session ∧
        session.id = report.session ∧ session.config.same step.workspace.config = true ∧
        (report.reused = true → ∀ old : Session, w.sessions.session = some old →
          session.id = old.id ∧ session.config = old.config) ∧
        (report.reused = false →
          session.config = step.workspace.config ∧
          (∀ earlier ∈ start.reports past, earlier.session.number < report.session.number) ∧
          ∀ before, before <+: past → ∀ old : Session,
            (start.after before).sessions.session = some old →
              old.outputDirectory.same session.outputDirectory = false) := by
  intro start w step
  have hw : w.Lodged := after_lodged state config past
  refine ⟨hw.classpath, ?_⟩
  intro report hreport
  obtain ⟨session, hlive, hid⟩ := session_of_report hreport
  have hcases := kept_or_new hw.numbered hreport hlive
  refine ⟨reused_iff_same hw.numbered hreport, not_reused_of_classpath hw hreport, session, hlive,
    hid, same_of_report hw.numbered hreport hlive, ?_, ?_⟩
  · intro hreused old hold
    rcases hcases with ⟨-, old', hold', hkept⟩ | ⟨hnot, -⟩
    · obtain rfl := Option.some.inj (hold'.symm.trans hold)
      exact hkept
    · rw [hreused] at hnot
      cases hnot
  · intro hreused
    rcases hcases with ⟨hkept, -⟩ | ⟨-, hnumber, hconfig⟩
    · rw [hreused] at hkept
      cases hkept
    · refine ⟨hconfig, ?_, ?_⟩
      · intro earlier hearlier
        rw [← hid, hnumber]
        exact Nat.lt_succ_of_le (number_le_made (new_lodged state config).numbered hearlier)
      · rintro before ⟨rest, rfl⟩ old hold
        have hbefore : (start.after before).Lodged := after_lodged state config before
        have honward : Onward (start.after before) w := by
          have h := after_onward (start.after before) rest
          rwa [← after_append] at h
        apply hbefore.output_apart (meet_lodged w now hw) (honward.trans (meet_onward w now)) hold
          hlive
        intro hsame
        have hbound := Nat.le_trans (hbefore.numbered old hold) honward.made
        rw [hsame, hnumber] at hbound
        exact Nat.not_succ_le_self _ hbound

namespace ConfigurationWitness

def start : Workspace Scanning.frontend :=
  new Scanning.frontend (.new ⟨[0x2F]⟩) ⟨some (.ofText "/w"), ["a.jar", "b.jar"]⟩

/-- A document is opened; then the root moves away, and back to the same directory in another
spelling. -/
def past : List Arrival :=
  [⟨.bare, .opened ⟨"file:///w/a.nf"⟩ "process A \x7b\n\x7d\n" 1⟩,
    ⟨.bare, .root (some (.ofText "/v"))⟩, ⟨.bare, .root (some (.ofText "/w/."))⟩]

def edited : Arrival :=
  ⟨.bare, .edited ⟨"file:///w/a.nf"⟩ 2 [⟨some ⟨⟨0, 8⟩, ⟨0, 9⟩⟩, "C"⟩]⟩

/-- The same classpath in another order. -/
def reordered : Arrival := ⟨.bare, .classpath ["b.jar", "a.jar"]⟩

/-- An edit would keep the first session. The other order of the classpath makes a second one, with
an output directory of its own. -/
theorem session_kept_iff_same_config_reordered :
    ((start.after past).meet edited).report = some ⟨⟨1⟩, true, 0, 0⟩ ∧
      (∃ old : Session, (start.after past).sessions.session = some old ∧
        old.config.same ((start.after past).meet edited).workspace.config = true) ∧
      start.reports past = [⟨⟨1⟩, false, 0, 0⟩] ∧
      ((start.after past).meet reordered).report = some ⟨⟨2⟩, false, 0, 0⟩ ∧
      ∃ session : Session,
        ((start.after past).meet reordered).workspace.sessions.session = some session ∧
        ∀ old : Session, (start.after past).sessions.session = some old →
          old.outputDirectory.same session.outputDirectory = false := by
  have hedited : ((start.after past).meet edited).report = some ⟨⟨1⟩, true, 0, 0⟩ := by
    decide +kernel
  have hreports : start.reports past = [⟨⟨1⟩, false, 0, 0⟩] := by decide +kernel
  have hreordered : ((start.after past).meet reordered).report = some ⟨⟨2⟩, false, 0, 0⟩ := by
    decide +kernel
  obtain ⟨-, hkept⟩ := session_kept_iff_same_config (.new ⟨[0x2F]⟩)
    ⟨some (.ofText "/w"), ["a.jar", "b.jar"]⟩ past edited
  obtain ⟨-, hmade⟩ := session_kept_iff_same_config (.new ⟨[0x2F]⟩)
    ⟨some (.ofText "/w"), ["a.jar", "b.jar"]⟩ past reordered
  obtain ⟨-, -, session, hlive, -, -, -, hnew⟩ := hmade _ hreordered
  exact ⟨hedited, (hkept _ hedited).1.1 rfl, hreports, hreordered, session, hlive,
    (hnew rfl).2.2 past (List.prefix_refl past)⟩

end ConfigurationWitness

end Workspace

end PipelineServer
