import PipelineServer.Compiler.Scripted
import PipelineServer.Proofs.Workspace.Calls

/-!
The marks of changes against the files for which a kept index is brought up to date.

What the frontend reads again are the marked uris, what the index brings up to date is the scope of
the cycle. The two come from different places. They agree because no mark is left while a session is
live: all that is marked when a cycle begins with a session was touched since that session was
configured, and lies in the scope.
-/

namespace PipelineServer.Workspace

variable {F : Frontend}

/-- The uris that an event opens, edits or closes, or that it asks to be read again. -/
def touched (w : Workspace F) : Event → List Uri
  | .opened uri _ _ | .closed uri => [uri]
  | .edited uri _ _ => if w.documents.isOpen uri then [uri] else []
  | .watched uris => uris
  | .visited uri => if w.isAway uri then [uri] else []
  | .saved _ | .settings _ | .classpath _ | .root _ | .cycle _ => []

section Touched

variable {w begun : Workspace F} {event : Event}

theorem touched_edited {documents : DocumentStore} {uri : Uri} {version : Int} {edits : List Edit}
    (h : w.documents.change? uri version edits = some documents) :
    w.touched (.edited uri version edits) = [uri] := by
  obtain ⟨d, hopen, -⟩ := Option.map_eq_some_iff.1 h
  have hisOpen : w.documents.isOpen uri = true :=
    SortedMap.mem_iff_exists.2 ⟨d, hopen⟩
  rw [touched, if_pos hisOpen]

/-- When its cycle begins, all that an event touches is marked, and nothing else that was not. -/
theorem mem_begun?_changed_iff (h : w.begun? event = some begun) (uri : Uri) :
    uri ∈ begun.documents.changed ↔ uri ∈ w.documents.changed ∨ uri ∈ w.touched event := by
  have hmark : ∀ other, uri ∈ SortedSet.add w.documents.changed other ↔
      uri ∈ w.documents.changed ∨ uri ∈ [other] := by
    intro other
    rw [SortedSet.mem_add, List.mem_singleton, or_comm]
  have hclasspath : ∀ entries, w.reclassed? entries = some begun →
      (uri ∈ begun.documents.changed ↔ uri ∈ w.documents.changed ∨ uri ∈ []) := by
    intro entries h
    obtain ⟨-, rfl⟩ := reclassed?_eq_some h
    simp
  cases event with
  | opened other text version =>
      cases h
      exact hmark other
  | edited other version edits =>
      obtain ⟨documents, hchange, rfl⟩ := Option.map_eq_some_iff.1 h
      rw [touched_edited hchange]
      obtain ⟨d, -, rfl⟩ := Option.map_eq_some_iff.1 hchange
      exact hmark other
  | closed other =>
      cases h
      exact hmark other
  | watched uris =>
      simp only [begun?] at h
      split at h
      · cases h
      · cases h
        rw [DocumentStore.mem_foldl_mark_changed, or_comm]
        rfl
  | settings payload =>
      obtain ⟨entries, -, h⟩ := Option.bind_eq_some_iff.1 h
      exact hclasspath entries h
  | classpath entries => exact hclasspath entries h
  | visited other =>
      simp only [begun?] at h
      split at h
      · rename_i haway
        cases h
        rw [touched, if_pos haway]
        exact hmark other
      · cases h
  | cycle scope =>
      cases h
      simp [touched]
  | saved other => cases h
  | root path => cases h

/-- An event that runs no cycle touches nothing. -/
theorem touched_eq_nil (h : w.begun? event = none) : w.touched event = [] := by
  cases event with
  | opened uri text version => cases h
  | edited uri version edits =>
      rw [begun?, DocumentStore.change?, Option.map_map, Option.map_eq_none_iff] at h
      have hclosed : ¬w.documents.isOpen uri = true := SortedMap.not_mem_iff.2 h
      rw [touched, if_neg hclosed]
  | closed uri => cases h
  | watched uris =>
      simp only [begun?] at h
      split at h
      · rename_i hempty
        exact List.isEmpty_iff.1 hempty
      · cases h
  | visited uri =>
      simp only [begun?] at h
      split at h
      · cases h
      · rename_i haway
        rw [touched, if_neg haway]
  | cycle scope => cases h
  | settings payload => rfl
  | classpath entries => rfl
  | saved uri => rfl
  | root path => rfl

end Touched

/-- Something that happens in a run, as far as marks are concerned. -/
inductive Happening (F : Frontend)
  | touched (uri : Uri)
  | called (call : F.Call)

/-- What happens when an arrival is met: uris are touched, and then the frontend may be called. -/
def happenings (w : Workspace F) (a : Arrival) : List (Happening F) :=
  (w.touched a.event).map .touched ++ (w.calls a).map .called

/-- All that happens in a run, in order. -/
def chronicle (w : Workspace F) : List Arrival → List (Happening F)
  | [] => []
  | a :: rest => w.happenings a ++ (w.meet a).workspace.chronicle rest

/-- The last that happened is that `session` was configured and compiled. -/
def LastConfigured (past : List (Happening F)) (session : F.Session) : Prop :=
  ∃ earlier changed previous made, past = earlier ++
    [.called (.configured changed previous (.ok made)), .called (.compiled made session)]

/-- What a run preserves: marked is what was touched since the frontend was last called, and if a
session is live, that call was about it. -/
structure Followed (w : Workspace F) (past : List (Happening F)) : Prop where
  unmarked : w.Unmarked
  built : ∀ session, w.sessions.session = some session → w.index.built = true
  waiting : ∃ (before : List (Happening F)) (between : List Uri),
    past = before ++ between.map .touched ∧
    (∀ uri, uri ∈ w.documents.changed ↔ uri ∈ between) ∧
    ∀ session, w.sessions.session = some session → LastConfigured before session

theorem new_followed (state : F.State) (config : Config) : (new F state config).Followed [] := by
  refine ⟨fun _ _ => rfl, ?_, [], [], rfl, ?_, ?_⟩
  · intro session hlive
    cases hlive
  · intro uri
    simp [new, DocumentStore.empty]
  · intro session hlive
    cases hlive

/-- A cycle that goes through leaves an index that has been built. -/
theorem Completed.built {w : Workspace F} {scope : UriSet} {step : Step F} {purged : FileTree}
    {state state' : F.State} {made session : F.Session}
    (h : Completed w scope step purged state state' made session) :
    step.workspace.index.built = true := by
  rw [h.index, reindex]
  split
  · rw [Index.update]
    split
    · assumption
    · rfl
  · rfl

theorem meet_followed {w : Workspace F} {past : List (Happening F)} (hw : w.Followed past)
    (a : Arrival) : (w.meet a).workspace.Followed (past ++ w.happenings a) := by
  have hunmarked := meet_unmarked w a hw.unmarked
  obtain ⟨before, between, hpast, hmarked, hlast⟩ := hw.waiting
  cases hbegun : w.begun? a.event with
  | none =>
      obtain ⟨trace, -, hidle⟩ := handle_idle hbegun a.disk
      have hnothing : w.happenings a = [] := by
        rw [happenings, touched_eq_nil hbegun, calls_of_idle hbegun]
        rfl
      rw [hnothing, List.append_nil]
      rw [meet, hidle] at hunmarked ⊢
      exact ⟨hunmarked, hw.built, before, between, hpast, hmarked, hlast⟩
  | some begun =>
      obtain ⟨active, hworkspace⟩ := (handle_relays hbegun a.disk).workspace
      have hcourse := begun.cycle_course a.disk a.event.scope
      rw [meet, hworkspace] at hunmarked ⊢
      rw [happenings, calls_of_begun hbegun, hpast]
      generalize begun.cycleCalls a.disk a.event.scope = calls at hcourse ⊢
      refine ⟨hunmarked, ?_, ?_⟩
      · intro session hlive
        cases hcourse with
        | jammed hpurge habandoned => cases habandoned.session.symm.trans hlive
        | refused hpurge hconfigured habandoned => cases habandoned.session.symm.trans hlive
        | completed h => exact h.built
      · cases hcourse with
        | jammed hpurge habandoned hdocuments =>
            refine ⟨before, between ++ w.touched a.event, by simp, ?_, ?_⟩
            · intro uri
              rw [hdocuments, mem_begun?_changed_iff hbegun, hmarked, List.mem_append]
            · intro session hlive
              cases habandoned.session.symm.trans hlive
        | refused hpurge hconfigured habandoned hdocuments =>
            refine ⟨_, [], (List.append_nil _).symm, ?_, ?_⟩
            · intro uri
              simp [hdocuments, DocumentStore.drained]
            · intro session hlive
              cases habandoned.session.symm.trans hlive
        | completed h =>
            refine ⟨_, [], (List.append_nil _).symm, ?_, ?_⟩
            · intro uri
              simp [h.documents, DocumentStore.drained]
            · intro session hlive
              cases h.live.symm.trans hlive
              exact ⟨_, _, _, _, (List.append_assoc _ _ _).symm⟩

theorem after_followed {w : Workspace F} {past : List (Happening F)} (hw : w.Followed past)
    (arrivals : List Arrival) : (w.after arrivals).Followed (past ++ w.chronicle arrivals) := by
  induction arrivals generalizing w past with
  | nil => rwa [chronicle, List.append_nil]
  | cons a rest ih =>
      rw [chronicle, ← List.append_assoc]
      exact ih (meet_followed hw a)

/-- What the frontend is given when it is asked for a session. -/
theorem Course.given {w : Workspace F} {disk : FileTree} {scope : UriSet} {step : Step F}
    {calls : List F.Call} (h : Course w disk scope step calls) {changed : UriSet}
    {previous : Option F.Session} {answer : Except FrontendError F.Session}
    (hcall : .configured changed previous answer ∈ calls) :
    changed = w.documents.changed ∧ previous = w.handedOn? := by
  cases h with
  | jammed => simp at hcall
  | refused =>
      simp only [List.mem_singleton, Frontend.Call.configured.injEq] at hcall
      exact ⟨hcall.1, hcall.2.1⟩
  | completed =>
      simp only [List.mem_cons, Frontend.Call.configured.injEq, reduceCtorEq, List.not_mem_nil,
        or_false] at hcall
      exact ⟨hcall.1, hcall.2.1⟩

/-- A cycle that keeps the session patches an index that was built, for its scope. -/
theorem Completed.lastUpdate_eq {w : Workspace F} {scope : UriSet} {step : Step F}
    {purged : FileTree} {state state' : F.State} {made session : F.Session}
    (h : Completed w scope step purged state state' made session) (hreuses : w.reuses made = true)
    (hbuilt : w.index.built = true) :
    step.workspace.index.lastUpdate = some (.incremental scope) := by
  rw [h.index, reindex, if_pos hreuses, Index.update, if_pos hbuilt]

/-- For every frontend and every run: while a session is live, nothing is marked. Whenever a cycle
hands a session to the frontend, the uris handed along are those touched since that session was last
configured; and if the cycle reports that the session was kept, they lie in the scope for which the
index was patched. -/
theorem marks_agree_with_scope (F : Frontend) (state : F.State) (config : Config)
    (past : List Arrival) (now : Arrival) :
    let start := new F state config
    let w := start.after past
    let step := w.meet now
    (∀ session, w.sessions.session = some session → w.documents.changed = ∅) ∧
      ∀ changed previous answer, .configured changed previous answer ∈ w.calls now →
        (∀ session, previous = some session →
          ∃ (before : List (Happening F)) (between : List Uri), LastConfigured before session ∧
            start.chronicle past ++ (w.touched now.event).map .touched =
              before ++ between.map .touched ∧
            ∀ uri, uri ∈ changed ↔ uri ∈ between) ∧
          ∀ report, step.report = some report → report.reused = true →
            step.workspace.index.lastUpdate = some (.incremental now.event.scope) ∧
              ∀ uri, uri ∈ changed → uri ∈ now.event.scope := by
  intro start w step
  have hw : w.Followed (start.chronicle past) := after_followed (new_followed state config) past
  refine ⟨hw.unmarked, ?_⟩
  intro changed previous answer hcall
  cases hbegun : w.begun? now.event with
  | none =>
      rw [calls_of_idle hbegun] at hcall
      cases hcall
  | some begun =>
      have hintake := begun?_intake hbegun
      have hcourse := begun.cycle_course now.disk now.event.scope
      rw [calls_of_begun hbegun] at hcall
      obtain ⟨rfl, hprevious⟩ := hcourse.given hcall
      constructor
      · rintro session rfl
        have hlive := (Manager.handOn_eq_some hprevious.symm).1
        rw [hintake.sessions] at hlive
        obtain ⟨before, between, hpast, hmarked, hlast⟩ := hw.waiting
        refine ⟨before, between ++ w.touched now.event, hlast session hlive, ?_, ?_⟩
        · rw [hpast, List.map_append, List.append_assoc]
        · intro uri
          rw [mem_begun?_changed_iff hbegun, hmarked, List.mem_append]
      · intro report hreport hreused
        obtain ⟨_, _, _, made, _, hsome, hcompleted⟩ := completed_of_meet_report hreport
        obtain rfl := Option.some.inj (hbegun.symm.trans hsome)
        have hreuses : begun.reuses made = true := (hcompleted.reused_eq hreport).symm.trans hreused
        obtain ⟨session, hlive, -⟩ := reuses_iff.1 hreuses
        rw [hintake.sessions] at hlive
        refine ⟨?_, fun uri hmarked => hintake.marked_mem_scope hw.unmarked hlive hmarked⟩
        exact hcompleted.lastUpdate_eq hreuses (hintake.index ▸ hw.built session hlive)

namespace MarksWitness

def opened : Arrival := ⟨.bare, .opened ⟨"file:///a.nf"⟩ "" 1⟩

def compiled : Workspace Scripted.frontend := (new Scripted.frontend {} ⟨none, []⟩).after [opened]

/-- Two files change on disk, one of which is open. -/
def watched : Arrival := ⟨.bare, .watched [⟨"file:///b.nf"⟩, ⟨"file:///a.nf"⟩]⟩

theorem marks_agree_with_scope_watched :
    (compiled.meet watched).report = some ⟨⟨1⟩, true, 0, 0⟩ ∧
      ∃ changed session answer,
        .configured changed (some session) answer ∈ compiled.calls watched ∧
        (∃ (before : List (Happening Scripted.frontend)) (between : List Uri),
          LastConfigured before session ∧ ∀ uri, uri ∈ changed ↔ uri ∈ between) ∧
        ∀ uri, uri ∈ changed → uri ∈ watched.event.scope := by
  have hreport : (compiled.meet watched).report = some ⟨⟨1⟩, true, 0, 0⟩ := by decide +kernel
  obtain ⟨changed, session, answer, rest, hcalls⟩ : ∃ changed session answer rest,
      compiled.calls watched = .configured changed (some session) answer :: rest :=
    ⟨_, _, _, _, rfl⟩
  have hcall : .configured changed (some session) answer ∈ compiled.calls watched :=
    hcalls ▸ List.mem_cons_self
  obtain ⟨hsince, hpatched⟩ :=
    (marks_agree_with_scope Scripted.frontend {} ⟨none, []⟩ [opened] watched).2 _ _ _ hcall
  obtain ⟨before, between, hlast, -, hchanged⟩ := hsince session rfl
  exact ⟨hreport, changed, session, answer, hcall, ⟨before, between, hlast, hchanged⟩,
    (hpatched _ hreport rfl).2⟩

end MarksWitness

end PipelineServer.Workspace
