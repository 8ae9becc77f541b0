import PipelineServer.Proofs.Compiler.Sources

/-!
A session made from nothing is the disk overlaid with the editor.

Its sources are the files that the search of the root finds and the open documents with a source
path. What is open is read from the editor, whether the search finds it or not, and the documents
may be gone through in any order.
-/

namespace PipelineServer.Scanning

variable {disk : FileTree} {documents : DocumentStore}

/-- The search of the root finds a file of this uri under a path. -/
def OnDisk (disk : FileTree) (config : Config) (uri : Uri) (path : Path) : Prop :=
  ∃ root, config.root = some root ∧ disk.isDirectory root = true ∧
    path ∈ disk.sourceFiles root ∧ Uri.ofPath? path = some uri

/-- An open document of this uri has a local path that is a source path. -/
def InEditor (documents : DocumentStore) (uri : Uri) (path : Path) : Prop :=
  ∃ d ∈ documents.documents.values, d.uri = uri ∧ d.path? = some path ∧ path.isSource = true

/-- The path of a unit is one under which the search finds the uri, and that of the open document
only if there is none. -/
def Located (disk : FileTree) (documents : DocumentStore) (config : Config) (uri : Uri)
    (path : Path) : Prop :=
  OnDisk disk config uri path ∨ (∀ other, ¬OnDisk disk config uri other) ∧
    InEditor documents uri path

theorem onDisk_iff {config : Config} {uri : Uri} {path : Path} :
    OnDisk disk config uri path ↔
      path ∈ disk.searched config.root ∧ Uri.ofPath? path = some uri := by
  unfold OnDisk FileTree.searched
  cases config.root with
  | none => simp
  | some root => by_cases hdirectory : disk.isDirectory root = true <;> simp [hdirectory]

theorem onDisk_of_found? {config : Config} {uri : Uri} {path : Path}
    (h : found? disk config.root uri = some path) : OnDisk disk config uri path :=
  onDisk_iff.2 (uri_of_found? h)

theorem found?_eq_none_iff {config : Config} {uri : Uri} :
    found? disk config.root uri = none ↔ ∀ path, ¬OnDisk disk config uri path := by
  rw [← Option.not_isSome_iff_eq_none, found?_isSome_iff, not_exists]
  simp only [onDisk_iff]

theorem sourcePath?_eq_some_iff {uri : Uri} {path : Path} :
    sourcePath? uri = some path ↔ uri.toPath? = some path ∧ path.isSource = true :=
  Option.filter_eq_some_iff

theorem inEditor_iff {uri : Uri} {path : Path} :
    InEditor documents uri path ↔
      uri ∈ documents.documents.values.map Document.uri ∧ sourcePath? uri = some path := by
  rw [sourcePath?_eq_some_iff, List.mem_map]
  constructor
  · rintro ⟨d, hd, rfl, hpath⟩
    exact ⟨⟨d, hd, rfl⟩, hpath⟩
  · rintro ⟨⟨d, hd, rfl⟩, hpath⟩
    exact ⟨d, hd, rfl, hpath⟩

namespace Session

/-- A session made from nothing that goes through documents as they are listed. -/
def buildListed (disk : FileTree) (documents : DocumentStore) (id : SessionId) (config : Config)
    (outputDirectory : Path) (listed : List Document) : Session :=
  listed.foldl (loadDocument disk documents)
    ((Session.mk id config outputDirectory ∅ []).loadRoot disk documents)

theorem build_eq_buildListed (id : SessionId) (config : Config) (outputDirectory : Path) :
    build disk documents id config outputDirectory =
      buildListed disk documents id config outputDirectory documents.documents.values := rfl

theorem loadDocument_eq (s : Session) (d : Document) :
    ∃ sources, s.loadDocument disk documents d = { s with sources := sources } := by
  unfold loadDocument
  split
  · exact ⟨_, rfl⟩
  · split
    · split <;> exact ⟨_, rfl⟩
    · exact ⟨_, rfl⟩

section Listed

variable {id : SessionId} {config : Config} {outputDirectory : Path} {listed other : List Document}

theorem get?_buildListed (uri : Uri) :
    (buildListed disk documents id config outputDirectory listed).sources.get? uri =
      ((found? disk config.root uri).or
        (if uri ∈ listed.map Document.uri then sourcePath? uri else none)).map
        (unitAt disk documents uri) := by
  rw [buildListed, get?_foldl_loadDocument, get?_loadRoot, Option.map_or, SortedMap.get?_empty,
    Option.or_none]
  split <;> rfl

/-- The documents may be listed in any order. -/
theorem buildListed_of_perm (h : listed.Perm other) :
    buildListed disk documents id config outputDirectory listed =
      buildListed disk documents id config outputDirectory other := by
  apply foldl_ext_sources loadDocument_eq
  apply SortedMap.ext_get?
  intro uri
  rw [get?_foldl_loadDocument, get?_foldl_loadDocument]
  simp only [(h.map Document.uri).mem_iff]

theorem mem_build_iff {uri : Uri} :
    uri ∈ (build disk documents id config outputDirectory).sources ↔
      (∃ path, OnDisk disk config uri path) ∨ ∃ path, InEditor documents uri path := by
  rw [SortedMap.mem_iff_isSome, build_eq_buildListed, get?_buildListed, Option.isSome_map,
    Option.isSome_or, Bool.or_eq_true]
  apply or_congr
  · rw [found?_isSome_iff]
    simp only [onDisk_iff]
  · rw [Option.isSome_iff_exists]
    simp only [inEditor_iff, Option.ite_none_right_eq_some]

theorem located_of_get?_build {uri : Uri} {unit : SourceUnit}
    (h : (build disk documents id config outputDirectory).sources.get? uri = some unit) :
    Located disk documents config uri unit.path := by
  rw [build_eq_buildListed, get?_buildListed, Option.map_eq_some_iff] at h
  obtain ⟨path, hpath, rfl⟩ := h
  rcases Option.or_eq_some_iff.1 hpath with hfound | ⟨hmissed, hlisted⟩
  · exact .inl (onDisk_of_found? hfound)
  · rw [Option.ite_none_right_eq_some] at hlisted
    exact .inr ⟨found?_eq_none_iff.1 hmissed, inEditor_iff.2 hlisted⟩

end Listed

end Session

/-- A session made from nothing has the source files of its root and the open documents with a
source path, and no other sources. Each has the text of the open document if there is one, and else
what the disk gives for its path. The order of the documents plays no part. -/
theorem configure_overlays_editor (state : State) (disk : FileTree) (config : Config)
    (documents : DocumentStore) (changed : UriSet) :
    let session := (configure state disk config documents changed none).2
    (∀ uri, uri ∈ session.sources ↔
      (∃ path, OnDisk disk config uri path) ∨ ∃ path, InEditor documents uri path) ∧
    (∀ uri unit, session.sources.get? uri = some unit →
      (∀ d, documents.get? uri = some d → unit.text = .ok d.text) ∧
      (documents.get? uri = none → unit.text = (disk.read unit.path).map Text.decodeLossy) ∧
      Located disk documents config uri unit.path) ∧
    ∀ listed : List Document, listed.Perm documents.documents.values →
      Session.buildListed disk documents session.id config session.outputDirectory listed =
        session := by
  intro session
  refine ⟨fun uri => Session.mem_build_iff, fun uri unit hunit => ?_, fun listed hlisted => ?_⟩
  · have htext := Session.build_current _ _ _ uri unit hunit
    refine ⟨fun d hopen => ?_, fun hclosed => ?_, Session.located_of_get?_build hunit⟩
    · rw [htext, currentText_of_get? hopen]
    · rw [htext, currentText_of_closed hclosed]
  · have hid : session.id = ⟨state.made + 1⟩ := Session.build_id _ _ _
    have houtput : session.outputDirectory = state.outputBase.join (outputName ⟨state.made + 1⟩) :=
      Session.build_outputDirectory _ _ _
    rw [Session.buildListed_of_perm hlisted, hid, houtput, ← Session.build_eq_buildListed]
    rfl

end PipelineServer.Scanning
