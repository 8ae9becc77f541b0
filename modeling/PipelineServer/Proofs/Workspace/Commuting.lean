import PipelineServer.Proofs.Compiler.Reuse
import PipelineServer.Proofs.Workspace.Indexing
import PipelineServer.Proofs.Workspace.Marks
import PipelineServer.Proofs.Workspace.OwnDiagnostics

/-!
Notifications about different files commute.

While a session is kept, a notification decides anew about the documents and sources of the uris it
touches, each by itself, and all else that is kept follows from the documents and the sources
(`Workspace.meet_refreshed`, `Workspace.Reflected`). So two notifications that have no uri in common
lead to the same state in either order, although their cycles run with other scopes and publish
other differences on the way.
-/

namespace PipelineServer

open Scanning (Session SourceUnit SameSources reloaded)

namespace Event

/-- Notifications about documents and files. -/
def AboutFiles : Event → Prop
  | .opened .. | .edited .. | .closed _ | .watched _ => True
  | _ => False

/-- What a notification makes of the document that is open under a uri. -/
def document (event : Event) (uri : Uri) (old : Option Document) : Option Document :=
  match event with
  | .opened other text version => if uri = other then some ⟨uri, text, version⟩ else old
  | .edited other version edits =>
      if uri = other then
        old.map fun d => { edits.foldl Document.apply d with version := version }
      else old
  | .closed other => if uri = other then none else old
  | _ => old

/-- Documents outside the scope stay as they are. -/
theorem document_of_not_mem {event : Event} {uri : Uri} (h : uri ∉ event.scope)
    (old : Option Document) : event.document uri old = old := by
  have hother : ∀ other, uri ∉ SortedSet.ofKeys [other] → uri ≠ other := by
    intro other hnot heq
    exact hnot (by simp [heq])
  cases event with
  | opened other text version => exact if_neg (hother other h)
  | edited other version edits => exact if_neg (hother other h)
  | closed other => exact if_neg (hother other h)
  | _ => rfl

end Event

namespace Workspace

section Notice

variable {F : Frontend} {w begun : Workspace F} {event : Event}

/-- Before its cycle, a notification changes the documents one by one and nothing else. -/
theorem begun?_document (habout : event.AboutFiles) (h : w.begun? event = some begun) :
    begun.config = w.config ∧
      ∀ uri, begun.documents.get? uri = event.document uri (w.documents.get? uri) := by
  cases event with
  | opened other text version =>
      obtain rfl := Option.some.inj h
      refine ⟨rfl, fun uri => ?_⟩
      by_cases huri : uri = other
      · rw [Event.document, if_pos huri, huri]
        exact SortedMap.get?_insert_self _ _ _
      · rw [Event.document, if_neg huri]
        exact SortedMap.get?_insert_of_ne _ _ huri
  | edited other version edits =>
      obtain ⟨documents, hchange, rfl⟩ := Option.map_eq_some_iff.1 h
      obtain ⟨d, hopen, rfl⟩ := Option.map_eq_some_iff.1 hchange
      refine ⟨rfl, fun uri => ?_⟩
      by_cases huri : uri = other
      · rw [Event.document, if_pos huri, huri, hopen]
        exact SortedMap.get?_insert_self _ _ _
      · rw [Event.document, if_neg huri]
        exact SortedMap.get?_insert_of_ne _ _ huri
  | closed other =>
      obtain rfl := Option.some.inj h
      refine ⟨rfl, fun uri => ?_⟩
      by_cases huri : uri = other
      · rw [Event.document, if_pos huri, huri]
        exact SortedMap.get?_erase_self _ _
      · rw [Event.document, if_neg huri]
        exact SortedMap.get?_erase_of_ne _ huri
  | watched uris =>
      simp only [begun?] at h
      split at h
      · cases h
      · obtain rfl := Option.some.inj h
        refine ⟨rfl, fun uri => ?_⟩
        rw [DocumentStore.get?, DocumentStore.foldl_mark_documents]
        rfl
  | _ => exact habout.elim

/-- A notification that runs no cycle has nothing to change. -/
theorem document_of_begun?_eq_none (habout : event.AboutFiles) (h : w.begun? event = none)
    (uri : Uri) : event.document uri (w.documents.get? uri) = w.documents.get? uri := by
  cases event with
  | edited other version edits =>
      rw [begun?, DocumentStore.change?, Option.map_map, Option.map_eq_none_iff] at h
      by_cases huri : uri = other
      · rw [Event.document, if_pos huri, huri, h]
        rfl
      · exact if_neg huri
  | opened other text version => cases h
  | closed other => cases h
  | watched uris => rfl
  | _ => exact habout.elim

/-- What a notification touches lies in its scope. -/
theorem mem_scope_of_touched (habout : event.AboutFiles) {uri : Uri}
    (h : uri ∈ w.touched event) : uri ∈ event.scope := by
  cases event with
  | edited other version edits =>
      rw [touched] at h
      split at h
      · exact SortedSet.mem_ofKeys.2 h
      · cases h
  | opened other text version => exact SortedSet.mem_ofKeys.2 h
  | closed other => exact SortedSet.mem_ofKeys.2 h
  | watched uris => exact SortedSet.mem_ofKeys.2 h
  | _ => exact habout.elim

/-- Whether a notification touches a uri depends on no other document. -/
theorem mem_touched_congr {v : Workspace F} (habout : event.AboutFiles) {uri : Uri}
    (h : v.documents.get? uri = w.documents.get? uri) :
    uri ∈ v.touched event ↔ uri ∈ w.touched event := by
  have hopen : v.documents.isOpen uri = w.documents.isOpen uri := congrArg Option.isSome h
  cases event with
  | edited other version edits =>
      by_cases huri : uri = other
      · subst huri
        rw [touched, touched, hopen]
      · have hnot : ∀ {x : Workspace F}, uri ∉ x.touched (.edited other version edits) := by
          intro x hmem
          rw [touched] at hmem
          split at hmem
          · exact huri (List.mem_singleton.1 hmem)
          · cases hmem
        exact iff_of_false hnot hnot
  | opened other text version => exact Iff.rfl
  | closed other => exact Iff.rfl
  | watched uris => exact Iff.rfl
  | _ => exact habout.elim

end Notice

/-! ## One notification -/

/-- What a run preserves: all that is kept besides the documents follows from the live session. -/
structure Reflected (w : Workspace Scanning.frontend) : Prop where
  attributed : w.Attributed
  indexed : w.Indexed
  snapshot : ∀ session : Session, w.sessions.session = some session →
    w.snapshot = Snapshot.ofMessages Uri.ofPath? session.messages

theorem new_reflected (state : Scanning.State) (config : Config) :
    (new Scanning.frontend state config).Reflected := by
  refine ⟨new_attributed state config, new_indexed state config, ?_⟩
  intro session hlive
  cases hlive

theorem meet_reflected (w : Workspace Scanning.frontend) (a : Arrival) (hw : w.Reflected) :
    (w.meet a).workspace.Reflected := by
  refine ⟨meet_attributed w a hw.attributed, meet_indexed w a hw.indexed, ?_⟩
  intro session hlive
  rw [meet] at hlive ⊢
  rcases w.handle_reaction a.disk a.event with hquiet | ⟨_, habandoned⟩ | ⟨_, hcompleted⟩
  · rw [hquiet.sessions] at hlive
    rw [hquiet.snapshot, hw.snapshot session hlive]
  · rw [habandoned.session] at hlive
    cases hlive
  · obtain rfl := Option.some.inj (hcompleted.live.symm.trans hlive)
    exact hcompleted.snapshot

/-- A completed cycle updates a live session that was built from the configuration. -/
theorem Completed.updated_of_same {w : Workspace Scanning.frontend} {scope : UriSet}
    {step : Step Scanning.frontend} {purged : FileTree} {state state' : Scanning.State}
    {made session old : Session} (h : Completed w scope step purged state state' made session)
    (hw : w.Numbered) (hlive : w.sessions.session = some old)
    (hsame : old.config.same w.config = true) : Updated w scope step purged old session := by
  rcases h.updated_or_built hw with ⟨old', hupdated⟩ | hbuilt
  · obtain rfl := Option.some.inj (hupdated.live.symm.trans hlive)
    exact hupdated
  · have hreused := hbuilt.reused
    rw [h.report, (h.reuses_iff_same hw).2 ⟨old, hlive, hsame⟩] at hreused
    cases hreused

/-- If the old output can be deleted, the cycle of an event completes. -/
theorem meet_completed {w begun : Workspace Scanning.frontend} {a : Arrival}
    (hbegun : w.begun? a.event = some begun) {purged : FileTree} {deleted : Trace}
    (hpurge : Manager.purge a.disk w.sessions.outputDirectory? = .ok (purged, deleted)) :
    ∃ state state' made session,
      Completed begun a.event.scope (w.meet a) purged state state' made session := by
  have hpurge' : Manager.purge a.disk begun.sessions.outputDirectory? = .ok (purged, deleted) := by
    rw [(begun?_intake hbegun).sessions, hpurge]
  have hcleared : begun.cleared a.disk = purged := by rw [cleared, hpurge']
  have hanswer : ∃ state made, begun.configured purged = (state, .ok made) := by
    rcases begun.configured_cases purged with ⟨_, -, -, hanswer⟩ | ⟨-, hanswer⟩
    · exact ⟨_, _, hanswer⟩
    · exact ⟨_, _, hanswer⟩
  obtain ⟨state, made, hconfigured⟩ := hanswer
  obtain ⟨state', session, h⟩ := cycle_completed hpurge' hconfigured a.event.scope
  rw [hcleared] at h
  exact ⟨state, state', made, session, h.relay (handle_relays hbegun a.disk)⟩

/-- On `other`, the output of the session can be deleted, and what is left has the sources of
`disk`. -/
def Undisturbed (disk : FileTree) (session : Session) (other : FileTree) : Prop :=
  ∃ purged deleted, Manager.purge other (some session.outputDirectory) = .ok (purged, deleted) ∧
    SameSources disk purged

/-- A notification was met while the session was kept: from `old` to `next`, documents and sources
have been decided anew for the uris it touches, and for no others. -/
structure Refreshed (disk : FileTree) (w : Workspace Scanning.frontend) (a : Arrival)
    (old next : Session) : Prop where
  live : (w.meet a).workspace.sessions.session = some next
  config : (w.meet a).workspace.config = w.config
  frame : next.id = old.id ∧ next.config = old.config ∧
    next.outputDirectory = old.outputDirectory
  documents : ∀ uri, (w.meet a).workspace.documents.get? uri =
    a.event.document uri (w.documents.get? uri)
  sources : ∀ uri, next.sources.get? uri =
    if uri ∈ w.touched a.event then
      (reloaded disk (w.meet a).workspace.documents old.config.root uri
        (old.sources.get? uri)).map (SourceUnit.declared .boundary)
    else old.sources.get? uri

/-- A notification that runs no cycle refreshes nothing. -/
theorem refreshed_of_begun?_eq_none {w : Workspace Scanning.frontend} {session : Session}
    (hlive : w.sessions.session = some session) {a : Arrival} (habout : a.event.AboutFiles)
    (h : w.begun? a.event = none) (disk : FileTree) : Refreshed disk w a session session := by
  have hreroot : a.event.reroot w.config = w.config := by
    cases hevent : a.event with
    | root path =>
        rw [hevent] at habout
        exact habout.elim
    | _ => rfl
  have hmeet : (w.meet a).workspace = w := by
    obtain ⟨trace, -, hidle⟩ := handle_idle h a.disk
    rw [meet, hidle, hreroot]
    rfl
  refine ⟨?_, ?_, ⟨rfl, rfl, rfl⟩, ?_, ?_⟩
  · rw [hmeet, hlive]
  · rw [hmeet]
  · intro uri
    rw [hmeet, document_of_begun?_eq_none habout h]
  · intro uri
    rw [touched_eq_nil h, if_neg List.not_mem_nil]

/-- Meeting a notification while the session is kept. -/
theorem meet_refreshed {disk : FileTree} {w : Workspace Scanning.frontend} (hw : w.Reflected)
    {session : Session} (hlive : w.sessions.session = some session)
    (hsame : session.config.same w.config = true) {a : Arrival} (habout : a.event.AboutFiles)
    (hdisk : Undisturbed disk session a.disk) :
    ∃ next, Refreshed disk w a session next := by
  cases hbegun : w.begun? a.event with
  | none => exact ⟨session, refreshed_of_begun?_eq_none hlive habout hbegun disk⟩
  | some begun =>
      obtain ⟨purged, deleted, hpurge, hsources⟩ := hdisk
      have houtput : w.sessions.outputDirectory? = some session.outputDirectory := by
        rw [Manager.outputDirectory?, hlive]
        rfl
      obtain ⟨state, state', made, next, hcompleted⟩ :=
        meet_completed hbegun (houtput ▸ hpurge)
      have hintake := begun?_intake hbegun
      obtain ⟨hconfig, hdocuments⟩ := begun?_document habout hbegun
      have hupdated := hcompleted.updated_of_same (hintake.numbered hw.indexed.numbered)
        (hintake.sessions ▸ hlive) (hconfig ▸ hsame)
      have hmarked : ∀ uri, uri ∈ begun.documents.changed ↔ uri ∈ w.touched a.event := by
        intro uri
        rw [mem_begun?_changed_iff hbegun, hw.indexed.unmarked session hlive]
        exact or_iff_right (SortedMap.not_mem_empty uri)
      refine ⟨next, hcompleted.live, hcompleted.config.trans hconfig,
        ⟨hupdated.id_eq, hupdated.config_eq, hupdated.outputDirectory_eq⟩, ?_, ?_⟩
      · intro uri
        rw [hcompleted.documents]
        exact hdocuments uri
      · intro uri
        rw [hupdated.compiled, Session.get?_compile, renewed, Session.get?_foldl_reload,
          hcompleted.documents, hsources.reloaded_eq]
        by_cases htouched : uri ∈ w.touched a.event
        · rw [if_pos htouched, if_pos ((hmarked uri).2 htouched)]
        · rw [if_neg htouched, if_neg (fun h => htouched ((hmarked uri).1 h))]
          -- what is not touched has been compiled before
          cases hunit : session.sources.get? uri with
          | none => rfl
          | some unit =>
              rw [Option.map_some, (hw.indexed.inStep session hlive).settled uri unit hunit]

/-! ## Two notifications -/

section Pair

variable {disk : FileTree} {w : Workspace Scanning.frontend} {session : Session}

/-- The documents and sources after two notifications, where `event` is the only one of them that
may be about the uri. -/
structure Decided (disk : FileTree) (w last : Workspace Scanning.frontend) (event : Event)
    (old next : Session) (uri : Uri) : Prop where
  document : last.documents.get? uri = event.document uri (w.documents.get? uri)
  source : next.sources.get? uri =
    if uri ∈ w.touched event then
      (reloaded disk last.documents old.config.root uri (old.sources.get? uri)).map
        (SourceUnit.declared .boundary)
    else old.sources.get? uri

/-- The second notification leaves what the first one decided. -/
theorem decided_by_first {a b : Arrival} {next last : Session} (hb : b.event.AboutFiles)
    (hfirst : Refreshed disk w a session next)
    (hsecond : Refreshed disk (w.meet a).workspace b next last) {uri : Uri}
    (huri : uri ∉ b.event.scope) : Decided disk w (w.after [a, b]) a.event session last uri := by
  have hdocument : (w.after [a, b]).documents.get? uri =
      (w.meet a).workspace.documents.get? uri :=
    (hsecond.documents uri).trans (Event.document_of_not_mem huri _)
  have huntouched : uri ∉ (w.meet a).workspace.touched b.event :=
    fun h => huri (mem_scope_of_touched hb h)
  refine ⟨hdocument.trans (hfirst.documents uri), ?_⟩
  rw [hsecond.sources, if_neg huntouched, hfirst.sources,
    Scanning.reloaded_of_get?_eq hdocument]

/-- The first notification leaves to the second one what that decides. -/
theorem decided_by_second {a b : Arrival} {next last : Session} (ha : a.event.AboutFiles)
    (hb : b.event.AboutFiles) (hfirst : Refreshed disk w a session next)
    (hsecond : Refreshed disk (w.meet a).workspace b next last) {uri : Uri}
    (huri : uri ∉ a.event.scope) : Decided disk w (w.after [a, b]) b.event session last uri := by
  have hdocument : (w.meet a).workspace.documents.get? uri = w.documents.get? uri :=
    (hfirst.documents uri).trans (Event.document_of_not_mem huri _)
  have hsource : next.sources.get? uri = session.sources.get? uri := by
    rw [hfirst.sources, if_neg fun h => huri (mem_scope_of_touched ha h)]
  refine ⟨?_, ?_⟩
  · rw [← hdocument]
    exact hsecond.documents uri
  · rw [hsecond.sources, hsource, hfirst.frame.2.1]
    by_cases htouched : uri ∈ w.touched b.event
    · rw [if_pos htouched, if_pos ((mem_touched_congr hb hdocument).2 htouched)]
      rfl
    · rw [if_neg htouched, if_neg fun h => htouched ((mem_touched_congr hb hdocument).1 h)]

/-- What the same notification decided in either order is the same. -/
theorem Decided.unique {last last' : Workspace Scanning.frontend} {event : Event}
    {next next' : Session} {uri : Uri} (h : Decided disk w last event session next uri)
    (h' : Decided disk w last' event session next' uri) :
    last.documents.get? uri = last'.documents.get? uri ∧
      next.sources.get? uri = next'.sources.get? uri := by
  have hdocument : last.documents.get? uri = last'.documents.get? uri :=
    h.document.trans h'.document.symm
  exact ⟨hdocument, by rw [h.source, h'.source, Scanning.reloaded_of_get?_eq hdocument]⟩

/-- The session is kept through two notifications. -/
theorem exists_refreshed_pair (hw : w.Reflected) (hlive : w.sessions.session = some session)
    (hsame : session.config.same w.config = true) {a b : Arrival} (ha : a.event.AboutFiles)
    (hb : b.event.AboutFiles) (hdisk : Undisturbed disk session a.disk)
    (hdisk' : Undisturbed disk session b.disk) :
    ∃ next last, Refreshed disk w a session next ∧
      Refreshed disk (w.meet a).workspace b next last := by
  obtain ⟨next, hfirst⟩ := meet_refreshed hw hlive hsame ha hdisk
  obtain ⟨-, hconfig, houtput⟩ := hfirst.frame
  have hsame' : next.config.same (w.meet a).workspace.config = true := by
    rw [hconfig, hfirst.config, hsame]
  have hdisk'' : Undisturbed disk next b.disk := by
    rw [Undisturbed, houtput]
    exact hdisk'
  obtain ⟨last, hsecond⟩ :=
    meet_refreshed (meet_reflected w a hw) hfirst.live hsame' hb hdisk''
  exact ⟨next, last, hfirst, hsecond⟩

end Pair

/-- Two states in which sessions of the same frame are live agree if their documents and sources do,
uri by uri. -/
theorem Reflected.agree {v w : Workspace Scanning.frontend} (hv : v.Reflected) (hw : w.Reflected)
    {session other : Session} (hlive : v.sessions.session = some session)
    (hlive' : w.sessions.session = some other)
    (hframe : session.id = other.id ∧ session.config = other.config ∧
      session.outputDirectory = other.outputDirectory)
    (h : ∀ uri, v.documents.get? uri = w.documents.get? uri ∧
      session.sources.get? uri = other.sources.get? uri) :
    v.documents = w.documents ∧ session = other ∧ v.index.files = w.index.files ∧
      v.snapshot = w.snapshot := by
  have hdocuments : v.documents = w.documents := by
    have hopen : v.documents.documents = w.documents.documents :=
      SortedMap.ext_get? fun uri => (h uri).1
    have hchanged : v.documents.changed = w.documents.changed := by
      rw [hv.indexed.unmarked session hlive, hw.indexed.unmarked other hlive']
    calc v.documents = ⟨v.documents.documents, v.documents.changed⟩ := rfl
      _ = w.documents := by rw [hopen, hchanged]
  have hsources : session.sources = other.sources := SortedMap.ext_get? fun uri => (h uri).2
  have hmessages : session.messages = other.messages := by
    rw [hv.attributed.checked session hlive, hw.attributed.checked other hlive', hsources]
  have hsession : session = other := by
    obtain ⟨hid, hconfig, houtput⟩ := hframe
    calc session = ⟨session.id, session.config, session.outputDirectory, session.sources,
          session.messages⟩ := rfl
      _ = other := by rw [hid, hconfig, houtput, hsources, hmessages]
  refine ⟨hdocuments, hsession, ?_, ?_⟩
  · rw [(hv.indexed.inStep session hlive).files, (hw.indexed.inStep other hlive').files, hsession]
  · rw [hv.snapshot session hlive, hw.snapshot other hlive', hsession]

/-- Two notifications that have no uri in common lead to the same documents, session, index and
snapshot in either order. -/
theorem after_swapped {disk : FileTree} {w : Workspace Scanning.frontend} (hw : w.Reflected)
    {session : Session} (hlive : w.sessions.session = some session)
    (hsame : session.config.same w.config = true) {a b a' b' : Arrival}
    (ha : a.event.AboutFiles) (hb : b.event.AboutFiles) (ha' : a'.event = a.event)
    (hb' : b'.event = b.event) (hapart : ∀ uri, uri ∈ a.event.scope → uri ∉ b.event.scope)
    (hdisks : ∀ x ∈ [a, b, a', b'], Undisturbed disk session x.disk) :
    ∃ last : Session, (w.after [a, b]).sessions.session = some last ∧
      (w.after [b', a']).sessions.session = some last ∧
      (w.after [a, b]).documents = (w.after [b', a']).documents ∧
      (w.after [a, b]).index.files = (w.after [b', a']).index.files ∧
      (w.after [a, b]).snapshot = (w.after [b', a']).snapshot := by
  obtain ⟨next, last, hfirst, hsecond⟩ :=
    exists_refreshed_pair hw hlive hsame ha hb (hdisks a (by simp)) (hdisks b (by simp))
  obtain ⟨next', last', hfirst', hsecond'⟩ :=
    exists_refreshed_pair (a := b') (b := a') hw hlive hsame (hb' ▸ hb) (ha' ▸ ha)
      (hdisks b' (by simp)) (hdisks a' (by simp))
  have hpoint : ∀ uri,
      (w.after [a, b]).documents.get? uri = (w.after [b', a']).documents.get? uri ∧
        last.sources.get? uri = last'.sources.get? uri := by
    intro uri
    by_cases huri : uri ∈ a.event.scope
    · have hnot : uri ∉ b.event.scope := hapart uri huri
      have hdecided := decided_by_second (hb' ▸ hb) (ha' ▸ ha) hfirst' hsecond' (hb' ▸ hnot)
      rw [ha'] at hdecided
      exact (decided_by_first hb hfirst hsecond hnot).unique hdecided
    · have hdecided := decided_by_first (ha' ▸ ha) hfirst' hsecond' (ha' ▸ huri)
      rw [hb'] at hdecided
      exact (decided_by_second ha hb hfirst hsecond huri).unique hdecided
  have hframe : last.id = last'.id ∧ last.config = last'.config ∧
      last.outputDirectory = last'.outputDirectory := by
    obtain ⟨hid, hconfig, houtput⟩ := hfirst.frame
    obtain ⟨hid', hconfig', houtput'⟩ := hfirst'.frame
    rw [hsecond.frame.1, hsecond'.frame.1, hsecond.frame.2.1, hsecond'.frame.2.1,
      hsecond.frame.2.2, hsecond'.frame.2.2, hid, hid', hconfig, hconfig', houtput, houtput']
    exact ⟨rfl, rfl, rfl⟩
  obtain ⟨hdocuments, hsession, hindex, hsnapshot⟩ :=
    (after_induction meet_reflected hw [a, b]).agree (after_induction meet_reflected hw [b', a'])
      hsecond.live hsecond'.live hframe hpoint
  exact ⟨last, hsecond.live, hsession ▸ hsecond'.live, hdocuments, hindex, hsnapshot⟩

/-! ## The uris of one notification -/

/-- Only which uris are named matters, not in which order or how often. -/
theorem watched_congr {F : Frontend} (w : Workspace F) (disk : FileTree) {uris again : List Uri}
    (h : ∀ uri, uri ∈ again ↔ uri ∈ uris) :
    w.meet ⟨disk, .watched again⟩ = w.meet ⟨disk, .watched uris⟩ := by
  have hempty : again.isEmpty = uris.isEmpty := by
    rw [Bool.eq_iff_iff, List.isEmpty_iff, List.isEmpty_iff, List.eq_nil_iff_forall_not_mem,
      List.eq_nil_iff_forall_not_mem]
    simp only [h]
  have hscope : SortedSet.ofKeys again = SortedSet.ofKeys uris :=
    SortedSet.ext_mem fun uri => by rw [SortedSet.mem_ofKeys, SortedSet.mem_ofKeys, h]
  have hchanged : (again.foldl DocumentStore.mark w.documents).changed =
      (uris.foldl DocumentStore.mark w.documents).changed :=
    SortedSet.ext_mem fun uri => by
      rw [DocumentStore.mem_foldl_mark_changed, DocumentStore.mem_foldl_mark_changed, h]
  have hmarked : again.foldl DocumentStore.mark w.documents =
      uris.foldl DocumentStore.mark w.documents := by
    calc
      again.foldl DocumentStore.mark w.documents =
          ⟨w.documents.documents, (again.foldl DocumentStore.mark w.documents).changed⟩ := by
        rw [← DocumentStore.foldl_mark_documents again]
      _ = uris.foldl DocumentStore.mark w.documents := by
        rw [hchanged, ← DocumentStore.foldl_mark_documents uris]
  simp only [meet, handle, didChangeFiles, hempty, hscope, hmarked]

/-- The session and the index after files have changed on disk, reading the files in any order. -/
theorem watched_enumerates {w : Workspace Scanning.frontend} (hw : w.Reflected)
    {session : Session} (hlive : w.sessions.session = some session)
    (hsame : session.config.same w.config = true) {disk purged : FileTree} {deleted : Trace}
    (hpurge : Manager.purge disk (some session.outputDirectory) = .ok (purged, deleted))
    {uris : List Uri} (huris : uris ≠ []) :
    let step := w.meet ⟨disk, .watched uris⟩
    ∃ next : Session, step.workspace.sessions.session = some next ∧
      ∀ order : List Uri, order.Nodup → (∀ uri, uri ∈ order ↔ uri ∈ uris) →
        next =
            ((order.foldl (Session.reload purged w.documents) session).compile .boundary).1 ∧
          step.workspace.index.files =
            order.foldl (Index.refreshFile next.forest) w.index.files := by
  intro step
  have hbegun : w.begun? (.watched uris) =
      some { w with documents := uris.foldl DocumentStore.mark w.documents } :=
    if_neg fun hempty => huris (List.isEmpty_iff.1 hempty)
  have houtput : w.sessions.outputDirectory? = some session.outputDirectory := by
    rw [Manager.outputDirectory?, hlive]
    rfl
  obtain ⟨_, _, _, next, hcompleted⟩ :=
    meet_completed (a := ⟨disk, .watched uris⟩) hbegun (houtput ▸ hpurge)
  have hupdated := hcompleted.updated_of_same
    ((begun?_intake hbegun).numbered hw.indexed.numbered) hlive hsame
  refine ⟨next, hcompleted.live, ?_⟩
  intro order hnodup horder
  have hmarked : ∀ uri,
      uri ∈ order ↔ uri ∈ (uris.foldl DocumentStore.mark w.documents).changed := by
    intro uri
    rw [horder, DocumentStore.mem_foldl_mark_changed, hw.indexed.unmarked session hlive]
    exact (or_iff_left (SortedMap.not_mem_empty uri)).symm
  have hdrained : (uris.foldl DocumentStore.mark w.documents).drained = w.documents := by
    calc
      (uris.foldl DocumentStore.mark w.documents).drained = ⟨w.documents.documents, ∅⟩ := by
        rw [DocumentStore.drained, DocumentStore.foldl_mark_documents]
      _ = w.documents := by rw [← hw.indexed.unmarked session hlive]
  have hscope : ∀ uri, uri ∈ order ↔ uri ∈ SortedSet.ofKeys uris := by
    intro uri
    rw [SortedSet.mem_ofKeys, horder]
  refine ⟨?_, ?_⟩
  · rw [hupdated.compiled, renewed, ← Session.foldl_reload_of_enumerates hnodup hmarked, hdrained]
  · rw [hupdated.index]
    exact Index.update_files_of_enumerates (hw.indexed.inStep session hlive).built _ hscope

/-- After every run that leaves a session built from the configuration of the workspace, two
notifications that have no uri in common may come in either order. If the old output can be deleted
each time, and then the sources on disk are always the same, the documents, the session with all it
has compiled, the index, the snapshot and what the editor shows for each file are the same in the
end. Nor does it matter in which order the files of one notification are named, reloaded and
brought up to date in the index. -/
theorem notifications_commute (state : Scanning.State) (config : Config) (past : List Arrival)
    (session : Session) :
    let start := new Scanning.frontend state config
    let w := start.after past
    w.sessions.session = some session → session.config.same w.config = true →
      (∀ (disk : FileTree) (a b a' b' : Arrival), a.event.AboutFiles → b.event.AboutFiles →
        a'.event = a.event → b'.event = b.event →
        (∀ uri, uri ∈ a.event.scope → uri ∉ b.event.scope) →
        (∀ x ∈ [a, b, a', b'], Undisturbed disk session x.disk) →
        (∃ last : Session, (w.after [a, b]).sessions.session = some last ∧
          (w.after [b', a']).sessions.session = some last) ∧
        (w.after [a, b]).documents = (w.after [b', a']).documents ∧
        (w.after [a, b]).index.files = (w.after [b', a']).index.files ∧
        (w.after [a, b]).snapshot = (w.after [b', a']).snapshot ∧
        ∀ uri, (start.sent (past ++ [a, b])).shownFor uri =
          (start.sent (past ++ [b', a'])).shownFor uri) ∧
      ∀ (disk purged : FileTree) (deleted : Trace) (uris : List Uri),
        Manager.purge disk (some session.outputDirectory) = .ok (purged, deleted) → uris ≠ [] →
        let step := w.meet ⟨disk, .watched uris⟩
        (∀ again, (∀ uri, uri ∈ again ↔ uri ∈ uris) → w.meet ⟨disk, .watched again⟩ = step) ∧
        ∃ next : Session, step.workspace.sessions.session = some next ∧
          ∀ order : List Uri, order.Nodup → (∀ uri, uri ∈ order ↔ uri ∈ uris) →
            next =
                ((order.foldl (Session.reload purged w.documents) session).compile .boundary).1 ∧
              step.workspace.index.files =
                order.foldl (Index.refreshFile next.forest) w.index.files := by
  intro start w hlive hsame
  have hw : w.Reflected := after_induction meet_reflected (new_reflected state config) past
  refine ⟨?_, ?_⟩
  · intro disk a b a' b' ha hb ha' hb' hapart hdisks
    obtain ⟨last, hlast, hlast', hdocuments, hindex, hsnapshot⟩ :=
      after_swapped hw hlive hsame ha hb ha' hb' hapart hdisks
    refine ⟨⟨last, hlast, hlast'⟩, hdocuments, hindex, hsnapshot, ?_⟩
    intro uri
    have hshown : ∀ later, (start.sent (past ++ later)).shownFor uri =
        ((w.after later).snapshot.get? uri).getD [] := by
      intro later
      have hbefore : PublishSet.shownFor [] uri = (start.snapshot.get? uri).getD [] := rfl
      have hafter := after_shown hbefore (past ++ later)
      rwa [List.nil_append, after_append] at hafter
    rw [hshown, hshown, hsnapshot]
  · intro disk purged deleted uris hpurge huris step
    exact ⟨fun again h => watched_congr w disk h,
      watched_enumerates hw hlive hsame hpurge huris⟩

namespace CommutingWitness

def inRoot (names : List String) : Location := ("w" :: names).map Text.encodeUtf8

/-- A workspace with two source files, of which the second is `text`. -/
def diskWith (text : String) : FileTree :=
  ((FileTree.bare.put (inRoot []) (.directory false)).put (inRoot ["a.nf"])
    (.file (Text.encodeUtf8 "process A \x7b\n\x7d\n") false)).put (inRoot ["b.nf"])
    (.file (Text.encodeUtf8 text) false)

/-- The disk after the second file has changed. -/
def disk : FileTree := diskWith "workflow B \x7b\n"

/-- The same disk, with the output directory of the first session. -/
def used : FileTree := disk.put [Text.encodeUtf8 "session-1"] (.directory false)

def start : Workspace Scanning.frontend :=
  new Scanning.frontend (.new ⟨[0x2F]⟩) ⟨some (.ofText "/w"), []⟩

def past : List Arrival := [⟨diskWith "", .cycle ∅⟩]

def opened : Arrival := ⟨used, .opened ⟨"file:///w/a.nf"⟩ "process C \x7b\n" 1⟩

/-- The second file has changed, and something that is no file. -/
def watched : Arrival := ⟨used, .watched [⟨"untitled:x"⟩, ⟨"file:///w/b.nf"⟩]⟩

/-- Both files have an open brace in the end, whichever notification comes first, and the disk that
the first one leaves is the one the second one finds. -/
theorem notifications_commute_opened :
    ((start.after past).meet opened).disk = used ∧
      ((start.after past).meet watched).disk = used ∧
      ((start.after past).after [opened, watched]).documents =
        ((start.after past).after [watched, opened]).documents ∧
      (start.sent (past ++ [opened, watched])).shownFor ⟨"file:///w/b.nf"⟩ ≠ [] ∧
      (∀ uri, (start.sent (past ++ [opened, watched])).shownFor uri =
        (start.sent (past ++ [watched, opened])).shownFor uri) ∧
      (start.after past).meet ⟨used, .watched [⟨"file:///w/b.nf"⟩, ⟨"untitled:x"⟩]⟩ =
        (start.after past).meet watched := by
  have hkept : ((start.after past).sessions.session.map fun s : Session =>
      (s.outputDirectory, s.config.same (start.after past).config)) =
        some (.ofText "/session-1", true) := by
    decide +kernel
  obtain ⟨session, hlive, hsession⟩ := Option.map_eq_some_iff.1 hkept
  obtain ⟨houtput, hsame⟩ := Prod.mk.inj hsession
  have hdeleted : (Manager.purge used (some (.ofText "/session-1"))).toOption =
      some (disk, [.deleted (.ofText "/session-1")]) := by
    decide +kernel
  rw [← houtput] at hdeleted
  have hpurge : Manager.purge used (some session.outputDirectory) =
      .ok (disk, [.deleted session.outputDirectory]) := by
    cases hresult : Manager.purge used (some session.outputDirectory) with
    | error e =>
        rw [hresult] at hdeleted
        cases hdeleted
    | ok result =>
        rw [hresult] at hdeleted
        exact congrArg Except.ok (Option.some.inj hdeleted)
  have hdisks : ∀ x ∈ [opened, watched, opened, watched], Undisturbed disk session x.disk := by
    intro x hx
    have hdisk : x.disk = used := by
      rcases (by simpa using hx : x = opened ∨ x = watched ∨ x = opened ∨ x = watched) with
        rfl | rfl | rfl | rfl <;> rfl
    exact hdisk ▸ ⟨disk, _, hpurge, .of_eq rfl⟩
  have hapart : ∀ uri, uri ∈ opened.event.scope → uri ∉ watched.event.scope := by
    intro uri huri hmem
    obtain rfl : uri = ⟨"file:///w/a.nf"⟩ := by simpa [opened, Event.scope] using huri
    exact absurd (SortedSet.mem_ofKeys.1 hmem) (by decide)
  obtain ⟨hcommute, hnamed⟩ := notifications_commute (.new ⟨[0x2F]⟩) ⟨some (.ofText "/w"), []⟩ past
    session hlive hsame
  obtain ⟨-, hdocuments, -, -, hshown⟩ :=
    hcommute disk opened watched opened watched trivial trivial rfl rfl hapart hdisks
  refine ⟨by decide +kernel, by decide +kernel, hdocuments, by decide +kernel, hshown, ?_⟩
  apply (hnamed used disk _ _ hpurge (by decide)).1
  intro uri
  simp only [List.mem_cons, List.not_mem_nil, or_false]
  exact or_comm

end CommutingWitness

end Workspace

end PipelineServer
