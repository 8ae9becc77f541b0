import PipelineServer.Proofs.Compiler.Reuse
import PipelineServer.Proofs.Workspace.OpenDocuments

/-!
Keeping a session against building it anew.

As long as the sources on disk stay as they are, the live session has after every reported cycle the
sources that a session built from nothing would have. The exceptions are closed files that an event
named and that the search for sources does not find: once reloaded, they stay.
-/

namespace PipelineServer

open FileTree (SuitsSearch SuitsRoot)
open Scanning (Session SourceUnit SameSources Stray built?)

/-- If the event moves the root, it moves it to a path that suits the search on the disk. -/
def Event.Suits (disk : FileTree) : Event → Prop
  | .root path => SuitsRoot disk path
  | _ => True

theorem Config.root_of_same {a b : Config} (h : a.same b = true) :
    a.root.map Path.components = b.root.map Path.components := by
  rw [same, Bool.and_eq_true] at h
  cases ha : a.root with
  | none =>
      cases hb : b.root with
      | none => rfl
      | some q => simp [ha, hb] at h
  | some p =>
      cases hb : b.root with
      | none => simp [ha, hb] at h
      | some q => simpa [ha, hb, Path.same] using h.1

namespace Workspace

section Config

variable {F : Frontend}

theorem cycle_config (w : Workspace F) (disk : FileTree) (scope : UriSet) :
    (w.cycle disk scope).workspace.config = w.config := by
  rcases w.cycle_cases disk scope with h | ⟨_, _, _, _, h⟩
  · exact h.config
  · exact h.config

theorem begun?_root {w begun : Workspace F} {event : Event} (h : w.begun? event = some begun) :
    begun.config.root = w.config.root := by
  have hclasspath : ∀ entries, w.reclassed? entries = some begun →
      begun.config.root = w.config.root := by
    intro entries h
    obtain ⟨-, rfl⟩ := reclassed?_eq_some h
    rfl
  cases event with
  | edited uri version edits =>
      obtain ⟨documents, -, rfl⟩ := Option.map_eq_some_iff.1 h
      rfl
  | watched uris =>
      simp only [begun?] at h
      split at h <;> cases h
      rfl
  | settings payload =>
      obtain ⟨entries, -, h⟩ := Option.bind_eq_some_iff.1 h
      exact hclasspath entries h
  | classpath entries => exact hclasspath entries h
  | visited uri =>
      simp only [begun?] at h
      split at h <;> cases h
      rfl
  | _ => cases h <;> rfl

/-- Only an event about the root changes the root. -/
theorem handle_suits {w : Workspace F} {disk : FileTree} (hw : SuitsRoot disk w.config.root)
    (other : FileTree) {event : Event} (hevent : event.Suits disk) :
    SuitsRoot disk (w.handle other event).workspace.config.root := by
  cases hbegun : w.begun? event with
  | none =>
      obtain ⟨trace, -, hidle⟩ := handle_idle hbegun other
      rw [hidle]
      cases event with
      | root path => exact hevent
      | _ => exact hw
  | some begun =>
      obtain ⟨active, hworkspace⟩ := (handle_relays hbegun other).workspace
      have hroot : (begun.cycle other event.scope).workspace.config.root = w.config.root := by
        rw [cycle_config, begun?_root hbegun]
      rw [hworkspace]
      exact hroot.symm ▸ hw

/-- During the run, sessions are prepared on disks with the sources of `disk`. -/
def Steady (disk : FileTree) (w : Workspace F) : List Arrival → Prop
  | [] => True
  | a :: rest => SameSources disk (w.cleared a.disk) ∧ (w.meet a).workspace.Steady disk rest

end Config

/-- What a run preserves: whatever session is live, it has the sources of one built from nothing,
and besides at most named strays. -/
structure Rebuilt (disk : FileTree) (named : Uri → Prop) (w : Workspace Scanning.frontend) :
    Prop where
  mirrored : w.Mirrored
  suits : SuitsRoot disk w.config.root
  suited : ∀ session : Session, w.sessions.session = some session →
    SuitsRoot disk session.config.root
  agrees : ∀ session : Session, w.sessions.session = some session →
    session.Agrees disk w.documents named

theorem new_rebuilt {disk : FileTree} {config : Config} (hconfig : SuitsRoot disk config.root)
    (named : Uri → Prop) (state : Scanning.State) :
    (new Scanning.frontend state config).Rebuilt disk named := by
  refine ⟨new_mirrored state config, hconfig, ?_, ?_⟩
  · intro session hlive
    cases hlive
  · intro session hlive
    cases hlive

theorem meet_rebuilt {disk : FileTree} (hproper : disk.Proper) {named : Uri → Prop}
    {w : Workspace Scanning.frontend} (hw : w.Rebuilt disk named) {a : Arrival}
    (hsame : SameSources disk (w.cleared a.disk)) (hevent : a.event.Suits disk) :
    (w.meet a).workspace.Rebuilt disk fun uri => named uri ∨ uri ∈ a.event.scope := by
  have hsuits := handle_suits hw.suits a.disk hevent
  refine ⟨meet_mirrored w a hw.mirrored, hsuits, ?_, ?_⟩
  · intro session hlive
    cases meet_lives hw.mirrored.numbered hlive with
    | kept hlive h => exact hw.suited session hlive
    | updated hintake hold hdocuments h hconfig =>
        rw [h.config_eq]
        exact hw.suited _ hold
    | built hintake hdocuments h hconfig =>
        rw [h.config_eq, ← hconfig]
        exact hsuits
  · intro session hlive
    cases meet_lives hw.mirrored.numbered hlive with
    | kept hlive h =>
        rw [h.documents]
        exact (hw.agrees session hlive).mono fun _ => .inl
    | updated hintake hold hdocuments h hconfig =>
        rw [hdocuments, h.compiled]
        apply Session.compile_agrees
        apply Session.foldl_reload_agrees hproper hsame (hw.suited _ hold)
          ((hw.agrees _ hold).mono fun _ => .inl)
        · exact hintake.documents.unmarked
        · intro uri hmarked
          exact .inr (hintake.marked_mem_scope hw.mirrored.unmarked hold hmarked)
    | built hintake hdocuments h hconfig =>
        rw [hdocuments, h.compiled]
        apply Session.compile_agrees
        refine Session.build_agrees hsame ?_ _ _ _
        exact hintake.documents.keyed hw.mirrored.keyed

theorem Rebuilt.mono {disk : FileTree} {named named' : Uri → Prop}
    {w : Workspace Scanning.frontend} (hw : w.Rebuilt disk named)
    (hnamed : ∀ uri, named uri → named' uri) : w.Rebuilt disk named' :=
  ⟨hw.mirrored, hw.suits, hw.suited, fun session hlive => (hw.agrees session hlive).mono hnamed⟩

theorem after_rebuilt {disk : FileTree} (hproper : disk.Proper) {named : Uri → Prop}
    {w : Workspace Scanning.frontend} (hw : w.Rebuilt disk named) {arrivals : List Arrival}
    (hsteady : w.Steady disk arrivals) (hevents : ∀ a ∈ arrivals, a.event.Suits disk) :
    (w.after arrivals).Rebuilt disk fun uri =>
      named uri ∨ ∃ a ∈ arrivals, uri ∈ a.event.scope := by
  induction arrivals generalizing w named with
  | nil => exact hw.mono fun _ => .inl
  | cons a rest ih =>
      have hmet := meet_rebuilt hproper hw hsteady.1 (hevents a List.mem_cons_self)
      refine (ih hmet hsteady.2 fun a' ha' => hevents a' (List.mem_cons_of_mem a ha')).mono ?_
      rintro uri ((hnamed | hscope) | ⟨a', ha', hscope⟩)
      · exact .inl hnamed
      · exact .inr ⟨a, List.mem_cons_self, hscope⟩
      · exact .inr ⟨a', List.mem_cons_of_mem a ha', hscope⟩

theorem get?_fresh {w : Workspace Scanning.frontend} (hkeyed : w.documents.Keyed)
    (disk : FileTree) (uri : Uri) :
    (w.fresh disk).sources.get? uri = built? disk w.documents w.config.root uri :=
  Session.get?_build hkeyed _ _ _ uri

/-- On a disk whose sources stay as they are, with roots that suit the search, every cycle that is
reported on leaves a session that has, uri by uri, the path and text that a session built from
nothing would have, except where it has a stray. A stray is one of its sources only if some event
named it. -/
theorem live_sources_eq_fresh (disk : FileTree) (state : Scanning.State) (config : Config)
    (past : List Arrival) (now : Arrival) (report : Report) :
    let start := new Scanning.frontend state config
    let step := (start.after past).meet now
    disk.Proper → SuitsRoot disk config.root → (∀ a ∈ past ++ [now], a.event.Suits disk) →
      start.Steady disk (past ++ [now]) → step.report = some report →
      ∃ session : Session, step.workspace.sessions.session = some session ∧
        ∀ uri,
          let stray := Stray disk step.workspace.documents step.workspace.config.root uri
          (Option.Rel SourceUnit.Alike (session.sources.get? uri)
            ((step.workspace.fresh disk).sources.get? uri) ↔ ¬(stray ∧ uri ∈ session.sources)) ∧
          (stray → uri ∈ session.sources → ∃ a ∈ past ++ [now], uri ∈ a.event.scope) := by
  intro start step hproper hconfig hevents hsteady hreport
  have hrebuilt := after_rebuilt hproper
    (new_rebuilt hconfig (fun _ => False) state) hsteady hevents
  have hpast : (start.after past).Mirrored :=
    after_induction meet_mirrored (new_mirrored state config) past
  have hafter : start.after (past ++ [now]) = step.workspace := by
    rw [after_append]
    rfl
  rw [hafter] at hrebuilt
  obtain ⟨session, hlive⟩ := live_of_report hreport
  refine ⟨session, hlive, ?_⟩
  intro uri stray
  have hsame : FileTree.SameRoot disk session.config.root step.workspace.config.root :=
    ⟨hrebuilt.suited session hlive, hrebuilt.suits,
      Config.root_of_same (same_of_report hpast.numbered hreport hlive)⟩
  have hagrees := hrebuilt.agrees session hlive
  rw [get?_fresh hrebuilt.mirrored.keyed]
  refine ⟨hagrees.rel_built?_iff hproper hsame uri, ?_⟩
  intro hstray hmem
  exact (hagrees.named_of_stray hproper hsame hstray hmem).resolve_left fun h => h

namespace ReuseWitness

def inRoot (names : List String) : Location := ("w" :: names).map Text.encodeUtf8

/-- A workspace with one source file, and one more in a directory that is not searched. -/
def disk : FileTree :=
  (((FileTree.bare.put (inRoot []) (.directory false)).put (inRoot ["main.nf"])
    (.file (Text.encodeUtf8 "workflow MAIN \x7b\n\x7d\n") false)).put (inRoot ["work"])
    (.directory false)).put (inRoot ["work", "stale.nf"]) (.file [] false)

/-- The same disk, with the output directory of the first session. -/
def used : FileTree := disk.put [Text.encodeUtf8 "session-1"] (.directory false)

def start : Workspace Scanning.frontend :=
  new Scanning.frontend (.new ⟨[0x2F]⟩) ⟨some (.ofText "/w/."), []⟩

def scanned : Arrival := ⟨disk, .cycle ∅⟩

/-- The editor reports a change of the file that the search does not find. -/
def watched : Arrival := ⟨used, .watched [⟨"file:///w/work/stale.nf"⟩]⟩

/-- Nothing changes on disk, but the file that was named is a source of the session that is kept,
and not of one built from nothing. -/
theorem named_file_stays :
    disk.Proper ∧ SuitsSearch disk (.ofText "/w/.") ∧ (start.meet scanned).disk = used ∧
      start.cleared disk = disk ∧ (start.after [scanned]).cleared used = disk ∧
      ((start.after [scanned]).meet watched).report = some ⟨⟨1⟩, true, 0, 0⟩ ∧
      ((start.after [scanned, watched]).sessions.session.map fun s : Session => s.sources.keys) =
        some [⟨"file:///w/main.nf"⟩, ⟨"file:///w/work/stale.nf"⟩] ∧
      ((start.after [scanned, watched]).fresh disk).sources.keys = [⟨"file:///w/main.nf"⟩] := by
  have hsuits : SuitsSearch disk (.ofText "/w/.") :=
    .of_room (by decide +kernel) (by decide +kernel) (by decide +kernel)
  refine ⟨by decide +kernel, hsuits, ?_⟩
  decide +kernel

/-- The source file is opened with another text. -/
def opened : Arrival := ⟨used, .opened ⟨"file:///w/main.nf"⟩ "process A \x7b\n\x7d\n" 1⟩

def closed : Arrival := ⟨used, .closed ⟨"file:///w/main.nf"⟩⟩

/-- When the document is closed, the session that is kept has the file again. -/
theorem live_sources_eq_fresh_closed :
    ((start.after [scanned, opened]).meet closed).report = some ⟨⟨1⟩, true, 0, 0⟩ ∧
      ∃ session : Session,
        ((start.after [scanned, opened]).meet closed).workspace.sessions.session = some session ∧
        Option.Rel SourceUnit.Alike (session.sources.get? ⟨"file:///w/main.nf"⟩)
          ((((start.after [scanned, opened]).meet closed).workspace.fresh disk).sources.get?
            ⟨"file:///w/main.nf"⟩) := by
  have hreport : ((start.after [scanned, opened]).meet closed).report =
      some ⟨⟨1⟩, true, 0, 0⟩ := by
    decide +kernel
  have hroot : SuitsRoot disk start.config.root := by
    intro root hroot
    obtain rfl : Path.ofText "/w/." = root := Option.some.inj hroot
    exact .of_room (by decide +kernel) (by decide +kernel) (by decide +kernel)
  have hevents : ∀ a ∈ [scanned, opened] ++ [closed], a.event.Suits disk := by
    intro a ha
    rcases (by simpa using ha : a = scanned ∨ a = opened ∨ a = closed) with rfl | rfl | rfl <;>
      trivial
  have hsteady : start.Steady disk ([scanned, opened] ++ [closed]) :=
    ⟨.of_eq (by decide +kernel), .of_eq (by decide +kernel), .of_eq (by decide +kernel), trivial⟩
  have hfound : Scanning.found? disk
      ((start.after [scanned, opened]).meet closed).workspace.config.root
        ⟨"file:///w/main.nf"⟩ ≠ none := by
    decide +kernel
  obtain ⟨session, hlive, hsources⟩ :=
    live_sources_eq_fresh disk (.new ⟨[0x2F]⟩) ⟨some (.ofText "/w/."), []⟩ [scanned, opened] closed
      _ (by decide +kernel) hroot hevents hsteady hreport
  refine ⟨hreport, session, hlive, ?_⟩
  exact (hsources ⟨"file:///w/main.nf"⟩).1.2 fun hstray => hfound hstray.1.missed

end ReuseWitness

end Workspace

end PipelineServer
