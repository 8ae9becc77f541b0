import PipelineServer.Compiler.Scanning
import PipelineServer.Proofs.Symbols.Index

/-!
The sources of a scanning session.

Loading and reloading are matters of one uri each, and compiling leaves paths and texts alone. So a
session can be followed source by source.
-/

namespace PipelineServer.Scanning

variable {disk : FileTree} {documents : DocumentStore}

theorem currentText_of_get? {uri : Uri} {d : Document} (h : documents.get? uri = some d)
    (path : Path) : currentText disk documents uri path = .ok d.text := by
  simp [currentText, DocumentStore.text?, h]

theorem currentText_of_closed {uri : Uri} (h : documents.get? uri = none) (path : Path) :
    currentText disk documents uri path = (disk.read path).map Text.decodeLossy := by
  simp [currentText, DocumentStore.text?, h]

namespace SourceUnit

@[simp] theorem declared_text (phase : Phase) (u : SourceUnit) :
    (u.declared phase).text = u.text := by
  cases htext : u.text <;> simp [declared, htext]

@[simp] theorem declared_path (phase : Phase) (u : SourceUnit) :
    (u.declared phase).path = u.path := by
  cases htext : u.text <;> simp [declared, htext]

@[simp] theorem declared_check (phase boundary : Phase) (u : SourceUnit) :
    (u.declared phase).check boundary = u.check boundary := by
  simp only [check, declared_text, declared_path]

theorem check_of_text {u : SourceUnit} {text : String} (h : u.text = .ok text) :
    u.check .boundary = Source.check u.path text := by
  rw [check, h]
  rfl

theorem check_of_error {u : SourceUnit} {e : DiskError} (h : u.text = .error e) (phase : Phase) :
    u.check phase = [] := by
  rw [check, h]

theorem declared_declared (phase : Phase) (u : SourceUnit) :
    (u.declared phase).declared phase = u.declared phase := by
  cases htext : u.text <;> simp [declared, htext]

end SourceUnit

namespace Session

@[simp] theorem get?_load_self (s : Session) (uri : Uri) (path : Path) :
    (s.load disk documents uri path).sources.get? uri =
      some ⟨path, currentText disk documents uri path, []⟩ :=
  s.sources.get?_insert_self uri _

theorem get?_load_of_ne (s : Session) {uri other : Uri} (path : Path) (hne : other ≠ uri) :
    (s.load disk documents uri path).sources.get? other = s.sources.get? other :=
  s.sources.get?_insert_of_ne _ hne

theorem mem_load_of_mem {s : Session} {uri other : Uri} {path : Path} (h : other ∈ s.sources) :
    other ∈ (s.load disk documents uri path).sources := by
  by_cases hne : other = uri
  · subst hne
    rw [SortedMap.mem_iff_isSome, get?_load_self]
    rfl
  · rw [SortedMap.mem_iff_isSome, get?_load_of_ne s path hne]
    exact h

/-- Reloading is about the sources alone. -/
theorem reload_eq (s : Session) (uri : Uri) :
    ∃ sources, s.reload disk documents uri = { s with sources := sources } := by
  unfold reload
  split
  · exact ⟨_, rfl⟩
  · split
    · exact ⟨_, rfl⟩
    · split <;> exact ⟨_, rfl⟩

/-- A run of steps that are about the sources alone is about the sources alone. -/
theorem foldl_sources_eq {α : Type} {step : Session → α → Session}
    (hstep : ∀ s x, ∃ sources, step s x = { s with sources := sources }) (xs : List α)
    (s : Session) : ∃ sources, xs.foldl step s = { s with sources := sources } := by
  induction xs generalizing s with
  | nil => exact ⟨_, rfl⟩
  | cons x rest ih =>
      obtain ⟨sources, hfirst⟩ := hstep s x
      rw [List.foldl_cons, hfirst]
      exact ih _

/-- Two such runs from one session are told apart by their sources. -/
theorem foldl_ext_sources {α : Type} {step : Session → α → Session}
    (hstep : ∀ s x, ∃ sources, step s x = { s with sources := sources }) {xs ys : List α}
    {s : Session} (h : (xs.foldl step s).sources = (ys.foldl step s).sources) :
    xs.foldl step s = ys.foldl step s := by
  obtain ⟨sources, hxs⟩ := foldl_sources_eq hstep xs s
  obtain ⟨sources', hys⟩ := foldl_sources_eq hstep ys s
  rw [hxs, hys] at h ⊢
  exact congrArg (fun sources => { s with sources := sources }) h

theorem foldl_reload_eq (uris : List Uri) (s : Session) :
    ∃ sources, uris.foldl (reload disk documents) s = { s with sources := sources } :=
  foldl_sources_eq reload_eq uris s

@[simp] theorem reload_config (s : Session) (uri : Uri) :
    (s.reload disk documents uri).config = s.config := by
  obtain ⟨sources, h⟩ := s.reload_eq uri
  rw [h]

@[simp] theorem foldl_reload_id (uris : List Uri) (s : Session) :
    (uris.foldl (reload disk documents) s).id = s.id := by
  obtain ⟨sources, h⟩ := s.foldl_reload_eq uris
  rw [h]

@[simp] theorem foldl_reload_config (uris : List Uri) (s : Session) :
    (uris.foldl (reload disk documents) s).config = s.config := by
  obtain ⟨sources, h⟩ := s.foldl_reload_eq uris
  rw [h]

@[simp] theorem foldl_reload_outputDirectory (uris : List Uri) (s : Session) :
    (uris.foldl (reload disk documents) s).outputDirectory = s.outputDirectory := by
  obtain ⟨sources, h⟩ := s.foldl_reload_eq uris
  rw [h]

theorem get?_reload_of_ne (s : Session) {uri other : Uri} (hne : other ≠ uri) :
    (s.reload disk documents uri).sources.get? other = s.sources.get? other := by
  unfold reload
  split
  · exact s.sources.get?_erase_of_ne hne
  · split
    · rfl
    · split
      · exact get?_load_of_ne s _ hne
      · exact s.sources.get?_erase_of_ne hne

/-- Reloading an open document takes over its text. -/
theorem get?_reload_of_open (s : Session) {uri : Uri} {d : Document} {path : Path}
    (hopen : documents.get? uri = some d) (hpath : uri.toPath? = some path)
    (hsource : path.isSource = true) :
    (s.reload disk documents uri).sources.get? uri = some ⟨path, .ok d.text, []⟩ := by
  have hisOpen : documents.isOpen uri = true := by
    rw [DocumentStore.isOpen, SortedMap.contains]
    exact Option.isSome_iff_exists.2 ⟨d, hopen⟩
  simp [reload, hpath, hsource, hisOpen, currentText_of_get? hopen]

/-- A source that is not reloaded stays what it was. -/
theorem get?_foldl_reload_of_not_mem {uris : List Uri} {uri : Uri} (h : uri ∉ uris) (s : Session) :
    (uris.foldl (reload disk documents) s).sources.get? uri = s.sources.get? uri :=
  foldl_lookup_of_not_mem (fun (s : Session) key => s.sources.get? key) (reload disk documents)
    (fun s _ _ => get?_reload_of_ne s) h s

theorem get?_foldl_reload_of_open {uris : List Uri} {uri : Uri} {d : Document} {path : Path}
    (hmem : uri ∈ uris) (hopen : documents.get? uri = some d) (hpath : uri.toPath? = some path)
    (hsource : path.isSource = true) (s : Session) :
    (uris.foldl (reload disk documents) s).sources.get? uri = some ⟨path, .ok d.text, []⟩ :=
  foldl_lookup_of_mem (fun (s : Session) key => s.sources.get? key) (reload disk documents)
    (fun s _ _ => get?_reload_of_ne s) (fun s => get?_reload_of_open s hopen hpath hsource) hmem s

@[simp] theorem compile_id (phase : Phase) (s : Session) : (s.compile phase).1.id = s.id := rfl

theorem get?_compile (phase : Phase) (s : Session) (uri : Uri) :
    (s.compile phase).1.sources.get? uri =
      (s.sources.get? uri).map (SourceUnit.declared phase) :=
  s.sources.get?_mapValues _ uri

/-- Every source of the session has its current text. -/
def Current (disk : FileTree) (documents : DocumentStore) (s : Session) : Prop :=
  ∀ uri unit, s.sources.get? uri = some unit →
    unit.text = currentText disk documents uri unit.path

theorem load_current {s : Session} (h : s.Current disk documents) (uri : Uri) (path : Path) :
    (s.load disk documents uri path).Current disk documents := by
  intro other unit hunit
  by_cases hne : other = uri
  · subst hne
    rw [get?_load_self, Option.some.injEq] at hunit
    rw [← hunit]
  · rw [get?_load_of_ne s path hne] at hunit
    exact h other unit hunit

/-- What loading preserves, taking in the workspace preserves. -/
theorem loadRoot_induction {P : Session → Prop}
    (hload : ∀ s uri path, P s → P (s.load disk documents uri path)) {s : Session} (h : P s) :
    P (s.loadRoot disk documents) := by
  unfold loadRoot
  split
  · exact h
  · split
    · refine List.foldlRecOn _ _ h fun s hs path _ => ?_
      split
      · exact hload s _ path hs
      · exact hs
    · exact h

theorem loadDocument_induction {P : Session → Prop}
    (hload : ∀ s uri path, P s → P (s.load disk documents uri path)) {s : Session} (h : P s)
    (d : Document) : P (s.loadDocument disk documents d) := by
  unfold loadDocument
  split
  · exact h
  · split
    · split
      · exact hload s d.uri _ h
      · exact h
    · exact h

/-- What loading preserves holds of a session made from nothing, if it holds of the session
without sources. -/
theorem build_induction {P : Session → Prop}
    (hload : ∀ s uri path, P s → P (s.load disk documents uri path)) {id : SessionId}
    {config : Config} {output : Path} (h : P ⟨id, config, output, ∅, []⟩) :
    P (build disk documents id config output) :=
  List.foldlRecOn _ _ (loadRoot_induction hload h) fun _ hs d _ =>
    loadDocument_induction hload hs d

theorem uri_mem_loadDocument (s : Session) {d : Document} {path : Path}
    (hpath : d.path? = some path) (hsource : path.isSource = true) :
    d.uri ∈ (s.loadDocument disk documents d).sources := by
  unfold loadDocument
  split
  · rename_i hmem
    exact hmem
  · rw [hpath]
    simp only [hsource, if_true]
    rw [SortedMap.mem_iff_isSome, get?_load_self]
    rfl

theorem uri_mem_foldl_loadDocument {docs : List Document} {d : Document} {path : Path}
    (hmem : d ∈ docs) (hpath : d.path? = some path) (hsource : path.isSource = true)
    (s : Session) : d.uri ∈ (docs.foldl (loadDocument disk documents) s).sources := by
  induction docs generalizing s with
  | nil => cases hmem
  | cons first rest ih =>
      rcases List.mem_cons.1 hmem with rfl | hrest
      · -- the later documents do not take the source away again
        let P := fun s : Session => d.uri ∈ s.sources
        have hload : ∀ s uri path, P s → P (s.load disk documents uri path) :=
          fun s _ _ h => mem_load_of_mem h
        exact List.foldlRecOn (motive := P) rest _ (uri_mem_loadDocument s hpath hsource)
          fun _ hs other _ => loadDocument_induction hload hs other
      · exact ih hrest _

@[simp] theorem build_id (id : SessionId) (config : Config) (output : Path) :
    (build disk documents id config output).id = id :=
  build_induction (P := fun s => s.id = id) (fun _ _ _ h => h) rfl

@[simp] theorem build_config (id : SessionId) (config : Config) (output : Path) :
    (build disk documents id config output).config = config :=
  build_induction (P := fun s => s.config = config) (fun _ _ _ h => h) rfl

@[simp] theorem build_outputDirectory (id : SessionId) (config : Config) (output : Path) :
    (build disk documents id config output).outputDirectory = output :=
  build_induction (P := fun s => s.outputDirectory = output) (fun _ _ _ h => h) rfl

theorem build_current (id : SessionId) (config : Config) (output : Path) :
    (build disk documents id config output).Current disk documents := by
  apply build_induction (P := fun s => s.Current disk documents)
  · exact fun _ uri path h => load_current h uri path
  · intro uri unit hunit
    cases hunit

/-- The open documents with a source path are sources of the session, with the texts they have in
the editor. -/
def Overlaid (documents : DocumentStore) (s : Session) : Prop :=
  ∀ uri d path, documents.get? uri = some d → uri.toPath? = some path → path.isSource = true →
    ∃ unit, s.sources.get? uri = some unit ∧ unit.text = .ok d.text

/-- A session made from nothing has all open documents. -/
theorem build_overlaid (hkeyed : ∀ uri d, documents.get? uri = some d → d.uri = uri)
    (id : SessionId) (config : Config) (output : Path) :
    (build disk documents id config output).Overlaid documents := by
  intro uri d path hopen hpath hsource
  have huri : d.uri = uri := hkeyed uri d hopen
  have hvalue : d ∈ documents.documents.values :=
    List.mem_map.2 ⟨(uri, d), SortedMap.get?_eq_some_iff.1 hopen, rfl⟩
  have hdpath : d.path? = some path := by rw [Document.path?, huri, hpath]
  have hmem : d.uri ∈ (build disk documents id config output).sources :=
    uri_mem_foldl_loadDocument hvalue hdpath hsource _
  rw [huri, SortedMap.mem_iff_exists] at hmem
  obtain ⟨unit, hunit⟩ := hmem
  refine ⟨unit, hunit, ?_⟩
  rw [build_current id config output uri unit hunit, currentText_of_get? hopen]

/-- Reloading all documents that moved keeps up with the editor. -/
theorem foldl_reload_overlaid {old : DocumentStore} {s : Session} (h : s.Overlaid old)
    {uris : List Uri} (hsame : ∀ uri, uri ∉ uris → documents.get? uri = old.get? uri) :
    (uris.foldl (reload disk documents) s).Overlaid documents := by
  intro uri d path hopen hpath hsource
  by_cases hmem : uri ∈ uris
  · exact ⟨_, get?_foldl_reload_of_open hmem hopen hpath hsource s, rfl⟩
  · rw [get?_foldl_reload_of_not_mem hmem]
    exact h uri d path (hsame uri hmem ▸ hopen) hpath hsource

theorem compile_overlaid {s : Session} (h : s.Overlaid documents) (phase : Phase) :
    (s.compile phase).1.Overlaid documents := by
  intro uri d path hopen hpath hsource
  obtain ⟨unit, hunit, htext⟩ := h uri d path hopen hpath hsource
  refine ⟨unit.declared phase, ?_, ?_⟩
  · rw [get?_compile, hunit, Option.map_some]
  · rw [SourceUnit.declared_text, htext]

/-- The declarations of every source are those of its text, up to the boundary. -/
def Settled (s : Session) : Prop :=
  ∀ uri unit, s.sources.get? uri = some unit → unit.declared .boundary = unit

theorem compile_settled (s : Session) : (s.compile .boundary).1.Settled := by
  intro uri unit hunit
  rw [get?_compile, Option.map_eq_some_iff] at hunit
  obtain ⟨source, _, rfl⟩ := hunit
  exact source.declared_declared .boundary

/-- The text that the session has for a uri. -/
def text? (s : Session) (uri : Uri) : Option String :=
  (s.sources.get? uri).bind fun u => u.text.toOption

theorem Overlaid.text?_eq {s : Session} (h : s.Overlaid documents) {uri : Uri} {d : Document}
    {path : Path} (hopen : documents.get? uri = some d) (hpath : uri.toPath? = some path)
    (hsource : path.isSource = true) : s.text? uri = some d.text := by
  obtain ⟨unit, hunit, htext⟩ := h uri d path hopen hpath hsource
  rw [text?, hunit, Option.bind_some, htext, Except.toOption]

/-- The declarations of a source are those of its text, and a source without text has none. -/
theorem Settled.declarations_eq {s : Session} (h : s.Settled) (uri : Uri) :
    (s.forest.declarations uri).getD [] =
      (s.text? uri).elim [] fun text => Source.declarations text.toList := by
  cases hunit : s.sources.get? uri with
  | none => simp only [forest, text?, hunit, Option.map_none, Option.bind_none, Option.getD_none,
      Option.elim_none]
  | some unit =>
      have hsettled := congrArg SourceUnit.declarations (h uri unit hunit)
      simp only [forest, text?, hunit, Option.map_some, Option.bind_some, Option.getD_some]
      rw [← hsettled, SourceUnit.declared]
      cases unit.text with
      | ok text => rfl
      | error e => rfl

/-- Compiling again changes nothing where no source changed. -/
theorem get?_compile_of_settled {old s : Session} (hold : old.Settled) {uri : Uri}
    (hsame : s.sources.get? uri = old.sources.get? uri) :
    (s.compile .boundary).1.sources.get? uri = old.sources.get? uri := by
  rw [get?_compile, hsame]
  cases hunit : old.sources.get? uri with
  | none => rfl
  | some unit => rw [Option.map_some, hold uri unit hunit]

theorem forest_closed (s : Session) : s.forest.Closed := by
  intro uri
  rw [forest, SortedMap.mem_keys, SortedMap.mem_iff_isSome, Option.isSome_map]

/-- The index of a session, source by source. -/
theorem filesOf_forest (s : Session) :
    Index.filesOf s.forest =
      s.sources.mapValues fun uri u => u.declarations.map (Symbol.ofDeclaration uri) := by
  apply SortedMap.ext_get?
  intro uri
  rw [Index.get?_filesOf s.forest_closed, SortedMap.get?_mapValues, Index.derive?, forest,
    Option.map_map]
  rfl

end Session

end PipelineServer.Scanning
