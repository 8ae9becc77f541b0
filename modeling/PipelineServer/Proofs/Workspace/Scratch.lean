import Mathlib.Data.List.Induction
import PipelineServer.Proofs.Session.Output
import PipelineServer.Proofs.Workspace.Configuration

/-!
The directories that sessions leave behind.

A cycle deletes the output directory of the session that was live and makes that of the session
that is live then. `FileTree.Renewed` says what becomes of every other entry. Whether more than one
output directory can be there at a time is a matter of the whole run: `FileTree.Kept` says what is
left of all that were made. It is kept by every cycle that can delete, as long as no one else
meddles with the path of the output base and that path does not go through an output directory
itself.
-/

namespace PipelineServer

/-- The output directory of a session, inside the output base. -/
def Scanning.scratch (base : Path) (id : SessionId) : Path := base.join (Scanning.outputName id)

open Scanning (scratch outputName outputName_readable outputName_injective)

namespace FileTree

/-- Where some steps lead from the working directory. -/
def locate (tree : FileTree) (follow : Bool) (steps : List Component) :
    Except DiskError Location :=
  resolveFrom tree follow linkLimit tree.working steps

/-- What there is to see at the end of some steps: nothing if they lead nowhere, and else the entry
of the place they lead to, if it has one. -/
def seen (tree : FileTree) (follow : Bool) (steps : List Component) : Option (Option Entry) :=
  match tree.locate follow steps with
  | .ok loc => some <| tree.entry? loc
  | .error _ => none

/-- Along the paths of output directories, `later` looks like `tree`. -/
def Alike (base : Path) (tree later : FileTree) : Prop :=
  ∀ id follow part, part <+: (scratch base id).components →
    later.seen follow part = tree.seen follow part

/-- No name in the path of the output base is that of an output directory inside it. -/
def SetApart (base : Path) (tree : FileTree) : Prop :=
  ∀ dir id part name, tree.locate true base.components = .ok dir →
    part ++ [.name name] <+: base.components →
      tree.locate false (part ++ [.name name]) ≠ .ok (dir ++ [outputName id])

variable {tree later purged : FileTree} {follow : Bool} {steps : List Component}
  {base : Path} {made : List Path} {live : Option SessionId} {trace : Trace}

theorem locate_eq_ok_iff {dest : Location} :
    tree.locate follow steps = .ok dest ↔ tree.Leads follow steps dest :=
  resolveFrom_eq_ok_iff

theorem seen_eq_some_iff {found : Option Entry} :
    tree.seen follow steps = some found ↔
      ∃ loc, tree.Leads follow steps loc ∧ tree.entry? loc = found := by
  simp only [← locate_eq_ok_iff, seen]
  cases tree.locate follow steps with
  | error e => simp
  | ok loc => simp

theorem reaches_iff_seen :
    tree.Reaches steps ↔ tree.seen true steps = some (some (.directory false)) := by
  simp only [Reaches, seen_eq_some_iff, isOpen_iff]

theorem free_iff_seen : tree.Free steps ↔ tree.seen false steps = some none := by
  simp only [Free, seen_eq_some_iff]

theorem lookup?_congr {p : Path} (h : later.seen follow p.steps = tree.seen follow p.steps) :
    later.lookup? follow p = tree.lookup? follow p := by
  have hjoin : ∀ t : FileTree, refusal? p = none → p.bytes ≠ [] →
      t.lookup? follow p = (t.seen follow p.steps).join := by
    intro t hrefusal hbytes
    rw [lookup?, resolve, hrefusal, seen, locate]
    simp only [hbytes, if_false]
    cases resolveFrom t follow linkLimit t.working p.steps with
    | error e => rfl
    | ok loc => rfl
  cases hrefusal : refusal? p with
  | some e => simp only [lookup?, resolve, hrefusal]
  | none =>
      by_cases hbytes : p.bytes = []
      · simp only [lookup?, resolve, hrefusal, hbytes, if_true]
      · rw [hjoin later hrefusal hbytes, hjoin tree hrefusal hbytes, h]

section Alike

variable (halike : Alike base tree later)
include halike

theorem Alike.seen_base {part : List Component} (hpart : part <+: base.components) :
    later.seen follow part = tree.seen follow part := by
  apply halike ⟨0⟩
  rw [scratch, Path.components_join_name base (outputName_readable _)]
  exact hpart.trans (List.prefix_append _ _)

theorem Alike.lookup? (id : SessionId) :
    later.lookup? follow (scratch base id) = tree.lookup? follow (scratch base id) := by
  have hname := outputName_readable id
  have hsteps : (scratch base id).steps = (scratch base id).components :=
    (Path.steps_join base hname).trans (Path.components_join_name base hname).symm
  apply lookup?_congr
  apply halike id
  exact ⟨[], (List.append_nil _).trans hsteps⟩

theorem Alike.reaches_iff : later.Reaches base.components ↔ tree.Reaches base.components := by
  rw [reaches_iff_seen, reaches_iff_seen, halike.seen_base (List.prefix_refl _)]

end Alike

theorem Alike.refl (base : Path) (tree : FileTree) : Alike base tree tree := fun _ _ _ _ => rfl

/-- Only a path that has the name of some output directory in it can go through one. -/
theorem setApart_of_not_mem (h : ∀ id, .name (outputName id) ∉ base.components) :
    SetApart base tree := by
  intro dir id part name _ hpart hlocate
  obtain ⟨mid, -, -, -, hmid⟩ := reaches_of_leads_name (locate_eq_ok_iff.1 hlocate)
  obtain ⟨-, hname⟩ := List.append_inj' (hmid rfl) rfl
  obtain rfl := List.singleton_inj.1 hname
  exact h id (hpart.subset (List.mem_append_right _ List.mem_cons_self))

theorem reaches_makeDirectories (h : tree.Reaches steps) (p : Path) :
    (tree.makeDirectories p).1.Reaches steps := by
  obtain ⟨dir, hleads, hopen⟩ := h
  have hwithin := (tree.makeDirectories_added p).within
  exact ⟨dir, hwithin.leads_of_isOpen hleads hopen, hwithin.isOpen hopen⟩

/-- Making the output directory of a session shows none that could not be found before, other than
that one. -/
theorem found_of_makeDirectories {other : SessionId} (hreaches : tree.Reaches base.components)
    (hgone : tree.lookup? false (scratch base other) = none) (id : SessionId) :
    let later := (tree.makeDirectories (scratch base id)).1
    later.lookup? false (scratch base other) = none ∨
      ∃ live, some id = some live ∧ scratch base other = scratch base live ∧
        later.isDirectory (scratch base other) = true := by
  intro later
  rcases makeDirectories_of_reaches (outputName_readable id) hreaches with
    hsame | ⟨dir, hdir, hopen, hfree, hmake⟩
  · left
    rwa [show later = tree from hsame]
  · by_cases hne : other = id
    · subst hne
      exact .inr ⟨other, rfl, rfl, isDirectory_of_makeDirectories (outputName_readable other)
        (congrArg Prod.snd hmake)⟩
    · left
      rw [show later = _ from congrArg Prod.fst hmake, Option.eq_none_iff_forall_ne_some]
      intro entry hentry
      have hfound := lookup?_of_put_join (outputName_readable other)
        (fun h => hne (outputName_injective h)) hdir hopen hfree hentry
      rw [scratch, hfound] at hgone
      cases hgone

/-- What is left of the output directories that were made, while the session `live` is live: nothing
if none was made; or the output base is there and at most the live session's directory is; or the
output base cannot be reached, and no directory can be made on the way to it. -/
inductive Kept (base : Path) (made : List Path) (live : Option SessionId) (tree : FileTree) : Prop
  | nothing (h : made = [])
  | held (hreaches : tree.Reaches base.components)
      (hmade : ∀ dir ∈ made, tree.lookup? false dir = none ∨
        ∃ id, live = some id ∧ dir = scratch base id ∧ tree.isDirectory dir = true)
  | blocked (hblocked : ¬ tree.Reaches base.components)
      (hfilled : ∀ part, part <+: base.components → part ≠ [] → ¬ tree.Free part)

namespace Kept

theorem of_alike (h : Kept base made live tree) (hnamed : ∀ dir ∈ made, ∃ id, dir = scratch base id)
    (halike : Alike base tree later) : Kept base made live later := by
  cases h with
  | nothing h => exact .nothing h
  | held hreaches hmade =>
      apply Kept.held (halike.reaches_iff.2 hreaches)
      intro dir hdir
      obtain ⟨id, rfl⟩ := hnamed dir hdir
      rw [halike.lookup?, isDirectory, halike.lookup?]
      exact hmade _ hdir
  | blocked hblocked hfilled =>
      apply Kept.blocked (fun h => hblocked (halike.reaches_iff.1 h))
      intro part hpart hne hfree
      rw [free_iff_seen, halike.seen_base hpart, ← free_iff_seen] at hfree
      exact hfilled part hpart hne hfree

/-- Deleting the output directory of the live session leaves none. -/
theorem purge (h : Kept base made live tree) (hapart : SetApart base tree)
    (hpurge : Manager.purge tree (live.map (scratch base)) = .ok (purged, trace)) :
    Kept base made none purged := by
  have hwithin := Manager.purge_within hpurge
  cases h with
  | nothing h => exact .nothing h
  | held hreaches hmade =>
      by_cases hstill : purged.Reaches base.components
      · apply Kept.held hstill
        intro dir hdir
        left
        rcases hmade dir hdir with hnone | ⟨id, rfl, rfl, hdirectory⟩
        · exact hwithin.lookup?_eq_none hnone
        · exact Manager.lookup?_of_purge (outputName_readable id) hpurge (.inr hdirectory)
      · apply Kept.blocked hstill
        intro part hpart hne
        cases live with
        | none =>
            cases hpurge
            exact absurd hreaches hstill
        | some id =>
            apply Manager.not_free_of_purge (outputName_readable id) hpurge hreaches hstill ?_
              hpart hne
            intro dir hdir part name hname hleads
            exact hapart dir id part name (locate_eq_ok_iff.2 hdir) hname
              (locate_eq_ok_iff.2 hleads)
  | blocked hblocked hfilled =>
      -- nothing can be found inside a base that cannot be reached
      obtain rfl : purged = tree := by
        rcases (Manager.purge_eq_ok hpurge).2 with ⟨hsame, -⟩ | ⟨p, loc, hp, hresolve, -⟩
        · exact hsame
        · obtain ⟨id, -, rfl⟩ := Option.map_eq_some_iff.1 hp
          obtain ⟨dir, hdir, hopen, -⟩ :=
            reaches_of_leads_name (leads_of_resolve_join (outputName_readable id) hresolve)
          exact absurd ⟨dir, hdir, hopen⟩ hblocked
      exact .blocked hblocked hfilled

/-- Making the output directory of the next session adds that one at most. -/
theorem make (h : Kept base made none tree) (hnamed : ∀ dir ∈ made, ∃ id, dir = scratch base id)
    (id : SessionId) :
    Kept base (made ++ if (tree.makeDirectories (scratch base id)).2 = none then [scratch base id]
      else []) (some id) (tree.makeDirectories (scratch base id)).1 := by
  have hname := outputName_readable id
  cases h with
  | nothing h =>
      rw [h]
      split
      · rename_i hok
        have hfound := isDirectory_of_makeDirectories hname hok
        apply Kept.held (reaches_of_isDirectory_join hname hfound)
        intro dir hdir
        obtain rfl := List.mem_singleton.1 hdir
        exact .inr ⟨id, rfl, rfl, hfound⟩
      · exact .nothing rfl
  | held hreaches hmade =>
      apply Kept.held (reaches_makeDirectories hreaches _)
      intro dir hdir
      rcases List.mem_append.1 hdir with hold | hnew
      · obtain ⟨other, rfl⟩ := hnamed dir hold
        rcases hmade _ hold with hgone | ⟨_, hlive, -⟩
        · exact found_of_makeDirectories hreaches hgone id
        · cases hlive
      · split at hnew
        · rename_i hok
          obtain rfl := List.mem_singleton.1 hnew
          exact .inr ⟨id, rfl, rfl, isDirectory_of_makeDirectories hname hok⟩
        · cases hnew
  | blocked hblocked hfilled =>
      rw [scratch, (makeDirectories_of_blocked hname hblocked hfilled).1]
      exact .blocked hblocked hfilled

/-- What can be found of all that was made belongs to the live session. -/
theorem live_of_found (h : Kept base made live tree)
    (hnamed : ∀ dir ∈ made, ∃ id, dir = scratch base id) {dir : Path} (hdir : dir ∈ made)
    (hfound : tree.lookup? false dir ≠ none) : ∃ id, live = some id ∧ dir = scratch base id := by
  cases h with
  | nothing h =>
      rw [h] at hdir
      cases hdir
  | held hreaches hmade =>
      rcases hmade dir hdir with hnone | ⟨id, hlive, hscratch, -⟩
      · exact absurd hnone hfound
      · exact ⟨id, hlive, hscratch⟩
  | blocked hblocked hfilled =>
      obtain ⟨id, rfl⟩ := hnamed dir hdir
      obtain ⟨entry, hentry⟩ := Option.ne_none_iff_exists'.1 hfound
      exact absurd (reaches_of_lookup?_join (outputName_readable id) hentry) hblocked

end Kept

/-- From `tree` to `later`, while the session `old` made way for `new`. All that may have changed is
what was at and below the output directory of the one, and directories that were missing on the path
of the other. -/
structure Renewed (base : Path) (old new : Option SessionId) (tree later : FileTree) : Prop where
  working : later.working = tree.working
  entry : ∀ loc, later.entry? loc = tree.entry? loc ∨
    (∃ id top, old = some id ∧ tree.resolve false (scratch base id) = .ok top ∧ top <+: loc) ∨
    (∃ id part, new = some id ∧ part <+: (scratch base id).components ∧
      later.locate false part = .ok loc ∧ tree.entry? loc = none ∧
      later.entry? loc = some (.directory false))

theorem renewed_of_eq {old new : Option SessionId} (h : later = tree) :
    Renewed base old new tree later := by
  subst h
  exact ⟨rfl, fun _ => .inl rfl⟩

/-- What is left of a deletion that failed lacks nothing but entries at and below the place that
was to be deleted. -/
theorem renewed_of_purge_error {old new : Option SessionId} {e : SessionError} {left : FileTree}
    (hpurge : Manager.purge tree (old.map (scratch base)) = .error (e, left)) :
    Renewed base old new tree left := by
  rcases Manager.purge_eq_error hpurge with hsame | ⟨p, top, stop, hp, hresolve, -, rfl⟩
  · exact renewed_of_eq hsame
  · obtain ⟨former, rfl, rfl⟩ := Option.map_eq_some_iff.1 hp
    refine ⟨rfl, ?_⟩
    intro loc
    by_cases hbelow : top <+: loc
    · exact .inr (.inl ⟨former, top, rfl, hresolve, hbelow⟩)
    · exact .inl (entry?_pruneUntil_elsewhere hbelow stop)

theorem renewed_of_purge {old : Option SessionId}
    (hpurge : Manager.purge tree (old.map (scratch base)) = .ok (purged, trace)) (id : SessionId) :
    Renewed base old (some id) tree (purged.makeDirectories (scratch base id)).1 := by
  have hadded := purged.makeDirectories_added (scratch base id)
  -- what deleting changes lies at or below the place that is deleted
  have hdeleted : ∀ loc, purged.entry? loc = tree.entry? loc ∨ ∃ former top, old = some former ∧
      tree.resolve false (scratch base former) = .ok top ∧ top <+: loc := by
    intro loc
    rcases (Manager.purge_eq_ok hpurge).2 with ⟨rfl, -⟩ | ⟨p, top, hp, hresolve, rfl⟩
    · exact .inl rfl
    · obtain ⟨former, rfl, rfl⟩ := Option.map_eq_some_iff.1 hp
      by_cases hbelow : top <+: loc
      · exact .inr ⟨former, top, rfl, hresolve, hbelow⟩
      · exact .inl (entry?_prune_elsewhere hbelow)
  refine ⟨hadded.working.trans (Manager.purge_within hpurge).working, ?_⟩
  intro loc
  rcases hdeleted loc with hsame | hbelow
  · rw [← hsame]
    rcases hadded.entry loc with hkept | ⟨hnone, hmade, part, hpart, hleads⟩
    · exact .inl hkept
    · exact .inr (.inr ⟨id, part, rfl, hpart, locate_eq_ok_iff.2 hleads, hnone, hmade⟩)
  · exact .inr (.inl hbelow)

end FileTree

theorem Trace.OnlyLogs.made {t : Trace} (h : t.OnlyLogs) : t.made = [] := by
  apply List.filterMap_eq_nil_iff.2
  intro e he
  obtain ⟨level, text, rfl⟩ := h e he
  rfl

namespace Manager

variable {F : Frontend}

theorem recordOutcome_made (m : Manager F) (previous : Option SessionId) (current : SessionId)
    (changed : Nat) : (m.recordOutcome previous current changed).2.made = [] := by
  unfold recordOutcome
  split
  · rfl
  · cases previous <;> rfl

theorem handOn_made (config : Config) (previous : Option F.Session) :
    (handOn config previous).2.made = [] := by
  unfold handOn
  split
  · rfl
  · split <;> rfl

end Manager

namespace Workspace

open Scanning (Session)

/-- No directory is made by a compilation or while its messages are published. -/
theorem finishCycle_made {F : Frontend} (w : Workspace F) (p : Manager.Prepared F)
    (session : F.Session) (reused : Bool) (scope : UriSet) :
    (w.finishCycle p session reused scope).trace.made = p.trace.made := by
  have hfaulty : ∀ result, (collect result).2.made = [] := by
    intro result
    cases result <;> rfl
  have hskipped : ∀ messages, (skippedLines messages).made = [] := by
    intro messages
    unfold skippedLines
    induction unplaced Uri.ofPath? messages with
    | nil => rfl
    | cons source rest ih => exact ih
  have hsent : ∀ set, (sendAll set).made = [] := by
    intro set
    induction set with
    | nil => rfl
    | cons entry rest ih => exact ih
  simp only [finishCycle, publish, Trace.made_append, hfaulty, hskipped, hsent, List.append_nil]

/-- A cycle that completes makes the output directory of the session the frontend came up with. -/
theorem cycle_output {F : Frontend} {w : Workspace F} {disk purged : FileTree} {deleted : Trace}
    {state : F.State} {made : F.Session}
    (hpurge : Manager.purge disk w.sessions.outputDirectory? = .ok (purged, deleted))
    (hconfigured : w.configured purged = (state, .ok made)) (scope : UriSet) :
    (w.cycle disk scope).workspace.sessions.session = some (F.compile state .boundary made).2.1 ∧
      (w.cycle disk scope).disk = (Manager.makeOutput purged (F.outputDirectory made)).1 ∧
      (w.cycle disk scope).trace.made =
        (Manager.makeOutput purged (F.outputDirectory made)).2.made := by
  have hprepare := Manager.prepare_of_configured hpurge hconfigured
  have hcycle : w.cycle disk scope =
      w.finishCycle (w.sessions.prepare w.config w.documents disk) made (w.reuses made) scope := by
    simp only [cycle, hprepare, reuses]
  rw [hcycle]
  refine ⟨?_, ?_, ?_⟩
  · simp only [finishCycle, compileSession, hprepare, Manager.recordOutcome_frontend]
  · simp only [finishCycle, hprepare]
  · rw [finishCycle_made, hprepare]
    simp only [Trace.made_append, (Manager.purge_eq_ok hpurge).1, Manager.handOn_made,
      Manager.recordOutcome_made, List.append_nil, List.nil_append]

/-- The identity of the live session. -/
def liveId? (w : Workspace Scanning.frontend) : Option SessionId :=
  Option.map Session.id w.sessions.session

variable {w : Workspace Scanning.frontend}

theorem Lodged.outputDirectory?_eq (hw : w.Lodged) :
    w.sessions.outputDirectory? = w.liveId?.map (scratch w.outputBase) := by
  unfold Manager.outputDirectory? liveId?
  cases hlive : w.sessions.session with
  | none => rfl
  | some session => exact congrArg some (hw.directory session hlive)

/-- The scanning frontend always comes up with a session, and compiling does not move its output. -/
theorem exists_cycle_output {disk purged : FileTree} {deleted : Trace}
    (hpurge : Manager.purge disk w.sessions.outputDirectory? = .ok (purged, deleted))
    (scope : UriSet) :
    ∃ session : Session, (w.cycle disk scope).workspace.sessions.session = some session ∧
      (w.cycle disk scope).disk = (Manager.makeOutput purged (some session.outputDirectory)).1 ∧
      (w.cycle disk scope).trace.made =
        (Manager.makeOutput purged (some session.outputDirectory)).2.made := by
  rcases hconfigured : w.configured purged with ⟨state, answer⟩
  obtain ⟨-, -, made, rfl⟩ := configured_onward hconfigured
  exact ⟨_, cycle_output hpurge hconfigured scope⟩

/-- All that an arrival can do to the file system: nothing, because it runs no cycle; delete a part
of the old output, because it cannot be deleted as a whole; or the one output directory is deleted
and the other is made. -/
inductive Disposal (w : Workspace Scanning.frontend) (a : Arrival) : Prop
  | idle (hbegun : w.begun? a.event = none) (hdisk : (w.meet a).disk = a.disk)
      (hmade : (w.meet a).trace.made = []) (hlive : (w.meet a).workspace.liveId? = w.liveId?)
  | jammed {begun : Workspace Scanning.frontend} {e : SessionError} {left : FileTree}
      (hbegun : w.begun? a.event = some begun)
      (hpurge : Manager.purge a.disk (w.liveId?.map (scratch w.outputBase)) = .error (e, left))
      (hdisk : (w.meet a).disk = left) (hmade : (w.meet a).trace.made = [])
  | renewed {purged : FileTree} {deleted : Trace} {id : SessionId}
      (hpurge : Manager.purge a.disk (w.liveId?.map (scratch w.outputBase)) = .ok (purged, deleted))
      (hlive : (w.meet a).workspace.liveId? = some id)
      (hdisk : (w.meet a).disk = (purged.makeDirectories (scratch w.outputBase id)).1)
      (hmade : (w.meet a).trace.made =
        if (purged.makeDirectories (scratch w.outputBase id)).2 = none
        then [scratch w.outputBase id] else [])

theorem meet_disposal (hw : w.Lodged) (a : Arrival) : Disposal w a := by
  cases hbegun : w.begun? a.event with
  | none =>
      obtain ⟨trace, hlogs, hmeet⟩ := handle_silent hbegun a.disk
      apply Disposal.idle hbegun
      · rw [meet, hmeet]
        rfl
      · rw [meet, hmeet]
        exact hlogs.made
      · rw [meet, hmeet]
        rfl
  | some begun =>
      obtain ⟨front, active, hlogs, hmeet⟩ := handle_begun hbegun a.disk
      have hsessions : begun.sessions = w.sessions := (begun?_intake hbegun).sessions
      have hdirectory := hw.outputDirectory?_eq
      cases hpurge : Manager.purge a.disk w.sessions.outputDirectory? with
      | error failure =>
          obtain ⟨e, left⟩ := failure
          rw [hdirectory] at hpurge
          apply Disposal.jammed hbegun hpurge
          · rw [← hdirectory, ← hsessions] at hpurge
            rw [meet, hmeet, cycle_of_purge_error hpurge]
          · rw [← hdirectory, ← hsessions] at hpurge
            rw [meet, hmeet, cycle_of_purge_error hpurge]
            exact (Trace.made_append _ _).trans (congrArg (· ++ _) hlogs.made)
      | ok result =>
          obtain ⟨purged, deleted⟩ := result
          rw [← hsessions] at hpurge
          obtain ⟨session, hlive, hdisk, hmade⟩ := exists_cycle_output hpurge a.event.scope
          rw [hsessions, hdirectory] at hpurge
          have hafter : (w.meet a).workspace.sessions.session = some session := by
            rw [meet, hmeet]
            exact hlive
          have hscratch : session.outputDirectory = scratch w.outputBase session.id := by
            rw [(meet_lodged w a hw).directory session hafter, (meet_onward w a).base, scratch]
          obtain ⟨hlater, hnoted⟩ := Manager.makeOutput_eq purged session.outputDirectory
          rw [hscratch] at hdisk hmade hlater hnoted
          apply Disposal.renewed hpurge
          · rw [liveId?, hafter]
            rfl
          · rw [meet, hmeet]
            exact hdisk.trans hlater
          · rw [meet, hmeet]
            exact (Trace.made_append _ _).trans
              ((congrArg (· ++ _) hlogs.made).trans (hmade.trans hnoted))

theorem meet_renewed (hw : w.Lodged) (a : Arrival) :
    FileTree.Renewed w.outputBase w.liveId? (w.meet a).workspace.liveId? a.disk
      (w.meet a).disk := by
  cases meet_disposal hw a with
  | idle hbegun hdisk hmade hlive => exact FileTree.renewed_of_eq hdisk
  | jammed hbegun hpurge hdisk hmade =>
      rw [hdisk]
      exact FileTree.renewed_of_purge_error hpurge
  | renewed hpurge hlive hdisk hmade =>
      rw [hlive, hdisk]
      exact FileTree.renewed_of_purge hpurge _

theorem meet_named (hw : w.Lodged) (a : Arrival) :
    ∀ dir ∈ (w.meet a).trace.made, ∃ id, dir = scratch w.outputBase id := by
  intro dir hdir
  cases meet_disposal hw a with
  | idle hbegun hdisk hmade hlive =>
      rw [hmade] at hdir
      cases hdir
  | jammed hbegun hpurge hdisk hmade =>
      rw [hmade] at hdir
      cases hdir
  | @renewed _ _ id hpurge hlive hdisk hmade =>
      rw [hmade] at hdir
      split at hdir
      · exact ⟨id, List.mem_singleton.1 hdir⟩
      · cases hdir

/-- One arrival keeps what `FileTree.Kept` says. -/
theorem meet_kept (hw : w.Lodged) {a : Arrival} {made : List Path}
    (hkept : FileTree.Kept w.outputBase made w.liveId? a.disk)
    (hnamed : ∀ dir ∈ made, ∃ id, dir = scratch w.outputBase id)
    (hpurged : ∀ begun, w.begun? a.event = some begun →
      (Manager.purge a.disk w.sessions.outputDirectory?).isOk = true)
    (hapart : FileTree.SetApart w.outputBase a.disk) :
    FileTree.Kept w.outputBase (made ++ (w.meet a).trace.made) (w.meet a).workspace.liveId?
      (w.meet a).disk := by
  cases meet_disposal hw a with
  | idle hbegun hdisk hmade hlive =>
      rw [hdisk, hmade, hlive, List.append_nil]
      exact hkept
  | jammed hbegun hpurge hdisk hmade =>
      have hok := hpurged _ hbegun
      rw [hw.outputDirectory?_eq, hpurge] at hok
      cases hok
  | renewed hpurge hlive hdisk hmade =>
      rw [hdisk, hmade, hlive]
      exact (hkept.purge hapart hpurge).make hnamed _

/-- The directories that a run makes. -/
def directoriesMade (w : Workspace Scanning.frontend) : List Arrival → List Path
  | [] => []
  | a :: rest => (w.meet a).trace.made ++ (w.meet a).workspace.directoriesMade rest

theorem directoriesMade_concat (w : Workspace Scanning.frontend) (past : List Arrival)
    (a : Arrival) :
    w.directoriesMade (past ++ [a]) =
      w.directoriesMade past ++ ((w.after past).meet a).trace.made := by
  induction past generalizing w with
  | nil => exact List.append_nil _
  | cons first rest ih =>
      rw [List.cons_append, directoriesMade, directoriesMade, ih, after, List.append_assoc]

/-- A run in which all that has to be deleted can be deleted, the path of the output base does not
go through an output directory, and no one but the server itself changes what there is to see along
the paths of output directories, once one has been made. -/
structure Unspoiled (base : Path) (start : Workspace Scanning.frontend)
    (arrivals : List Arrival) : Prop where
  purged : ∀ past a rest, arrivals = past ++ a :: rest →
    ∀ begun, (start.after past).begun? a.event = some begun →
      (Manager.purge a.disk (start.after past).sessions.outputDirectory?).isOk = true
  apart : ∀ past a rest, arrivals = past ++ a :: rest → FileTree.SetApart base a.disk
  alike : ∀ past a next rest, arrivals = past ++ a :: next :: rest →
    start.directoriesMade (past ++ [a]) ≠ [] →
      FileTree.Alike base ((start.after past).meet a).disk next.disk

section Run

variable (base : Path) (config : Config)

theorem outputBase_after (past : List Arrival) :
    ((new Scanning.frontend (.new base) config).after past).outputBase = base :=
  (after_onward _ past).base

theorem directoriesMade_named (past : List Arrival) :
    ∀ dir ∈ (new Scanning.frontend (.new base) config).directoriesMade past,
      ∃ id, dir = scratch base id := by
  induction past using List.reverseRecOn with
  | nil => exact nofun
  | append_singleton past a ih =>
      rw [directoriesMade_concat]
      intro dir hdir
      rcases List.mem_append.1 hdir with hold | hnew
      · exact ih dir hold
      · have hnamed := meet_named (after_lodged (.new base) config past) a dir hnew
        rwa [outputBase_after] at hnamed

/-- Whenever something arrives in an unspoiled run, `FileTree.Kept` holds of all that was made. -/
theorem after_kept {arrivals past rest : List Arrival} {a : Arrival}
    (h : Unspoiled base (new Scanning.frontend (.new base) config) arrivals)
    (harrivals : arrivals = past ++ a :: rest) :
    FileTree.Kept base ((new Scanning.frontend (.new base) config).directoriesMade past)
      ((new Scanning.frontend (.new base) config).after past).liveId? a.disk := by
  induction past using List.reverseRecOn generalizing a rest with
  | nil => exact .nothing rfl
  | append_singleton past last ih =>
      rw [List.append_assoc, List.singleton_append] at harrivals
      have hbase := outputBase_after base config past
      have hnamed := directoriesMade_named base config past
      have hmet := meet_kept (after_lodged (.new base) config past) (a := last)
        (by rw [hbase]; exact ih harrivals) (by rw [hbase]; exact hnamed)
        (h.purged past last _ harrivals) (by rw [hbase]; exact h.apart past last _ harrivals)
      rw [hbase, ← directoriesMade_concat] at hmet
      rw [after_append]
      by_cases hmade : (new Scanning.frontend (.new base) config).directoriesMade
          (past ++ [last]) = []
      · exact .nothing hmade
      · exact hmet.of_alike (directoriesMade_named base config _)
          (h.alike past last a rest harrivals hmade)

/-- Whatever happened before and whatever arrives, the server touches nothing but the output
directory of the session that was live, that of the session that is live then, and directories that
were missing on the path of the latter. And in an unspoiled run, what can be found of all output
directories ever made is that of the live session. -/
theorem cycles_keep_to_scratch (past : List Arrival) (a : Arrival) :
    let start := new Scanning.frontend (.new base) config
    let w := start.after past
    let step := w.meet a
    (∀ session : Session, step.workspace.sessions.session = some session →
        session.outputDirectory = scratch base session.id) ∧
      FileTree.Renewed base w.liveId? step.workspace.liveId? a.disk step.disk ∧
      (Unspoiled base start (past ++ [a]) →
        ∀ dir ∈ start.directoriesMade (past ++ [a]), step.disk.lookup? false dir ≠ none →
          ∃ session : Session, step.workspace.sessions.session = some session ∧
            session.outputDirectory = dir) := by
  intro start w step
  have hw : w.Lodged := after_lodged (.new base) config past
  have hbase : w.outputBase = base := outputBase_after base config past
  have hdirectory : ∀ session : Session, step.workspace.sessions.session = some session →
      session.outputDirectory = scratch base session.id := by
    intro session hlive
    rw [(meet_lodged w a hw).directory session hlive, (meet_onward w a).base, hbase, scratch]
  refine ⟨hdirectory, ?_, ?_⟩
  · rw [← hbase]
    exact meet_renewed hw a
  · intro hrun dir hdir hfound
    have hkept : FileTree.Kept base (start.directoriesMade (past ++ [a]))
        step.workspace.liveId? step.disk := by
      rw [directoriesMade_concat, ← hbase]
      apply meet_kept hw
      · rw [hbase]
        exact after_kept base config hrun rfl
      · rw [hbase]
        exact directoriesMade_named base config past
      · exact hrun.purged past a [] rfl
      · rw [hbase]
        exact hrun.apart past a [] rfl
    obtain ⟨id, hlive, rfl⟩ :=
      hkept.live_of_found (directoriesMade_named base config _) hdir hfound
    obtain ⟨session, hsession, rfl⟩ := Option.map_eq_some_iff.1 hlive
    exact ⟨session, hsession, hdirectory session hsession⟩

end Run

namespace ScratchWitness

def start (base : Path) : Workspace Scanning.frontend :=
  new Scanning.frontend (.new base) ⟨none, []⟩

/-- The output base is behind a link. -/
def linked : Path := .ofText "/l/out"

def real : Location := [Text.encodeUtf8 "real"]

def disk : FileTree :=
  (FileTree.bare.put real (.directory false)).put [Text.encodeUtf8 "l"] (.link (.ofText "/real"))

def first : Arrival := ⟨disk, .cycle ∅⟩

/-- A new classpath, on the disk that the first cycle leaves. -/
def second (base : Path) : Arrival := ⟨((start base).meet first).disk, .classpath ["x.jar"]⟩

theorem session_not_mem_linked (id : SessionId) : .name (outputName id) ∉ linked.components := by
  have hsteps : linked.components =
      [.root, .name (Text.encodeUtf8 "l"), .name (Text.encodeUtf8 "out")] := by
    decide +kernel
  have hlength : 8 ≤ (outputName id).length := by
    have hfront : (Text.encodeUtf8 "session-").length = 8 := by decide +kernel
    rw [Scanning.outputName_eq, List.length_append, hfront]
    exact Nat.le_add_right 8 _
  rw [hsteps]
  intro hmem
  rcases (by simpa using hmem : outputName id = Text.encodeUtf8 "l" ∨
    outputName id = Text.encodeUtf8 "out") with hname | hname
  · rw [hname] at hlength
    exact absurd hlength (by decide +kernel)
  · rw [hname] at hlength
    exact absurd hlength (by decide +kernel)

/-- The first session's directory is gone when the second session has its own. -/
theorem cycles_keep_to_scratch_linked :
    Unspoiled linked (start linked) ([first] ++ [second linked]) ∧
      (start linked).directoriesMade ([first] ++ [second linked]) =
        [scratch linked ⟨1⟩, scratch linked ⟨2⟩] ∧
      (((start linked).after [first]).meet (second linked)).disk.lookup? false
        (scratch linked ⟨1⟩) = none := by
  have hmade : (start linked).directoriesMade ([first] ++ [second linked]) =
      [scratch linked ⟨1⟩, scratch linked ⟨2⟩] := by
    decide +kernel
  have hrun : Unspoiled linked (start linked) ([first] ++ [second linked]) := by
    refine ⟨?_, fun _ a _ _ => FileTree.setApart_of_not_mem session_not_mem_linked, ?_⟩
    · intro past a rest harrivals begun _
      rcases past with _ | ⟨b, _ | ⟨c, past⟩⟩
      · obtain ⟨rfl, -⟩ := List.cons.inj harrivals
        decide +kernel
      · obtain ⟨rfl, htail⟩ := List.cons.inj harrivals
        obtain ⟨rfl, -⟩ := List.cons.inj htail
        decide +kernel
      · simp at harrivals
    · intro past a next rest harrivals _
      rcases past with _ | ⟨b, _ | ⟨c, past⟩⟩
      · obtain ⟨rfl, htail⟩ := List.cons.inj harrivals
        obtain ⟨rfl, -⟩ := List.cons.inj htail
        exact .refl _ _
      · simp at harrivals
      · simp at harrivals
  obtain ⟨-, -, hfound⟩ := cycles_keep_to_scratch linked ⟨none, []⟩ [first] (second linked)
  refine ⟨hrun, hmade, ?_⟩
  apply Classical.byContradiction
  intro hleft
  obtain ⟨session, hlive, hdirectory⟩ := hfound hrun _ (hmade ▸ List.mem_cons_self) hleft
  have hsecond : Option.map Session.outputDirectory
      (((start linked).after [first]).meet (second linked)).workspace.sessions.session =
        some (scratch linked ⟨2⟩) := by
    decide +kernel
  have hboth : some session.outputDirectory = some (scratch linked ⟨2⟩) :=
    (congrArg (Option.map Session.outputDirectory) hlive).symm.trans hsecond
  rw [hdirectory] at hboth
  exact absurd hboth (by decide +kernel)

/-- Below the first session's directory, the second of three names is a locked directory. -/
def stuck : Arrival :=
  let inside := fun name => real ++ ["out", "session-1", name].map Text.encodeUtf8
  ⟨(((second linked).disk.put (inside "a") (.file [] false)).put (inside "b") (.directory true)).put
    (inside "c") (.file [] false), .classpath ["x.jar"]⟩

example :
    let step := ((start linked).after [first]).meet stuck
    step.report = none ∧
      ["", "/a", "/b", "/c"].map (fun rest =>
        step.disk.lookup? false (.ofText ("/l/out/session-1" ++ rest))) =
      [some (.directory false), none, some (.directory true), some (.file [] false)] := by
  decide +kernel

/-- The path of the output base goes through the output directory of the first session. -/
def winding : Path := .ofText "/o/session-1/.."

def nested : Path := .ofText "/a/o"

/-- Someone locks a directory above the output base, and opens it after the classpath has
changed. -/
def locked : Arrival :=
  ⟨((start nested).meet first).disk.put [Text.encodeUtf8 "a"] (.directory true),
    .classpath ["x.jar"]⟩

def opened : Arrival :=
  ⟨(((start nested).after [first]).meet locked).disk.put [Text.encodeUtf8 "a"] (.directory false),
    .saved ⟨"file:///w/a.nf"⟩⟩

/-- On its way to the second session's directory, the server makes the first one again. And it does
not delete what it cannot see: with a lock above the output base, the first session's directory
stays without an error. -/
theorem directories_left_behind :
    ((start winding).directoriesMade [first, second winding] =
        [scratch winding ⟨1⟩, scratch winding ⟨2⟩] ∧
      (Manager.purge (second winding).disk
        ((start winding).after [first]).sessions.outputDirectory?).isOk = true ∧
      ((start winding).after [first, second winding]).liveId? = some ⟨2⟩ ∧
      (((start winding).after [first]).meet (second winding)).disk.lookup? false
        (scratch winding ⟨1⟩) = some (.directory false)) ∧
    ((start nested).directoriesMade [first, locked, opened] = [scratch nested ⟨1⟩] ∧
      (Manager.purge locked.disk
        ((start nested).after [first]).sessions.outputDirectory?).isOk = true ∧
      ((start nested).after [first, locked, opened]).liveId? = some ⟨2⟩ ∧
      (((start nested).after [first, locked]).meet opened).disk.lookup? false
        (scratch nested ⟨1⟩) = some (.directory false)) := by
  decide +kernel

end ScratchWitness

end Workspace

end PipelineServer
