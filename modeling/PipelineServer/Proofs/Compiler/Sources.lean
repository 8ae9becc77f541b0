import PipelineServer.Proofs.Compiler.Scanning
import PipelineServer.Proofs.Disk.Sources
import PipelineServer.Proofs.Uri.File

/-!
Which sources a session has, uri by uri.

A session made from nothing has the files that the search of its root finds, overlaid with the open
documents (`Session.get?_build`). Reloading decides anew for each uri that is named
(`Session.get?_foldl_reload`).
-/

namespace PipelineServer

namespace Scanning

variable {disk : FileTree} {documents : DocumentStore}

/-- The path under which the search finds a uri. Of several the last one counts. -/
def found? (disk : FileTree) (root : Option Path) (uri : Uri) : Option Path :=
  (disk.searched root).reverse.find? fun path => Uri.ofPath? path == some uri

/-- The local path of a uri, if it is that of a source. -/
def sourcePath? (uri : Uri) : Option Path := uri.toPath?.filter Path.isSource

/-- The path of a uri as an open document with a source path. -/
def openPath? (documents : DocumentStore) (uri : Uri) : Option Path :=
  if documents.isOpen uri then uri.toPath?.filter Path.isSource else none

theorem uri_of_found? {root : Option Path} {uri : Uri} {path : Path}
    (h : found? disk root uri = some path) :
    path ∈ disk.searched root ∧ Uri.ofPath? path = some uri := by
  refine ⟨List.mem_reverse.1 (List.mem_of_find?_eq_some h), ?_⟩
  simpa using List.find?_some h

theorem found?_isSome_iff {root : Option Path} {uri : Uri} :
    (found? disk root uri).isSome ↔ ∃ path ∈ disk.searched root, Uri.ofPath? path = some uri := by
  simp [found?]

theorem openPath?_eq_some_iff {uri : Uri} {path : Path} :
    openPath? documents uri = some path ↔
      documents.isOpen uri = true ∧ uri.toPath? = some path ∧ path.isSource = true := by
  unfold openPath?
  split
  · rename_i hopen
    simp [hopen, Option.filter_eq_some_iff]
  · rename_i hclosed
    simp [hclosed]

/-- A source that has just been taken in. -/
def unitAt (disk : FileTree) (documents : DocumentStore) (uri : Uri) (path : Path) : SourceUnit :=
  ⟨path, currentText disk documents uri path, []⟩

/-- The unit that a session built from nothing has for a uri: what the search finds, and else the
open document. -/
def built? (disk : FileTree) (documents : DocumentStore) (root : Option Path) (uri : Uri) :
    Option SourceUnit :=
  ((found? disk root uri).or (openPath? documents uri)).map (unitAt disk documents uri)

namespace Session

/-- Takes in one file that the search has found. -/
def loadFile (disk : FileTree) (documents : DocumentStore) (s : Session) (path : Path) : Session :=
  match Uri.ofPath? path with
  | some uri => s.load disk documents uri path
  | none => s

theorem get?_loadFile (s : Session) (path : Path) (uri : Uri) :
    (s.loadFile disk documents path).sources.get? uri =
      if Uri.ofPath? path = some uri then some (unitAt disk documents uri path)
      else s.sources.get? uri := by
  unfold loadFile
  cases Uri.ofPath? path with
  | none => simp
  | some place =>
      by_cases hplace : place = uri
      · subst hplace
        simp [unitAt]
      · simp [hplace, get?_load_of_ne s path (Ne.symm hplace)]

theorem loadRoot_eq_foldl (s : Session) :
    s.loadRoot disk documents =
      (disk.searched s.config.root).foldl (loadFile disk documents) s := by
  unfold loadRoot FileTree.searched
  cases s.config.root with
  | none => rfl
  | some root =>
      by_cases hdirectory : disk.isDirectory root = true
      · simp only [hdirectory, if_true]
        rfl
      · simp only [hdirectory]
        rfl

theorem get?_loadRoot (s : Session) (uri : Uri) :
    (s.loadRoot disk documents).sources.get? uri =
      ((found? disk s.config.root uri).map (unitAt disk documents uri)).or
        (s.sources.get? uri) := by
  rw [loadRoot_eq_foldl, found?]
  generalize disk.searched s.config.root = paths
  induction paths generalizing s with
  | nil => rfl
  | cons path rest ih =>
      rw [List.foldl_cons, ih, get?_loadFile, List.reverse_cons, List.find?_append]
      -- a later path with the same uri takes the place of this one
      cases rest.reverse.find? fun path => Uri.ofPath? path == some uri with
      | some later => rfl
      | none => by_cases hplace : Uri.ofPath? path = some uri <;> simp [hplace]

/-- A document is taken in if it has a source path and its uri is not a source yet. -/
theorem get?_loadDocument (s : Session) (d : Document) (uri : Uri) :
    (s.loadDocument disk documents d).sources.get? uri =
      (s.sources.get? uri).or
        (if d.uri = uri then (sourcePath? uri).map (unitAt disk documents uri) else none) := by
  unfold loadDocument sourcePath?
  rw [SortedMap.contains, Document.path?]
  by_cases huri : d.uri = uri
  · subst huri
    cases hunit : s.sources.get? d.uri with
    | some unit => simp [hunit]
    | none =>
        cases hpath : d.uri.toPath? with
        | none => simp [hunit]
        | some path =>
            by_cases hsource : path.isSource = true <;>
              simp [hsource, hunit, Option.filter, unitAt]
  · rw [if_neg huri, Option.or_none]
    split
    · rfl
    · split
      · split
        · exact get?_load_of_ne s _ (Ne.symm huri)
        · rfl
      · rfl

/-- Going through documents adds those whose uris are not sources yet, in whatever order. -/
theorem get?_foldl_loadDocument (listed : List Document) (s : Session) (uri : Uri) :
    (listed.foldl (loadDocument disk documents) s).sources.get? uri =
      (s.sources.get? uri).or
        (if uri ∈ listed.map Document.uri then
          (sourcePath? uri).map (unitAt disk documents uri) else none) := by
  induction listed generalizing s with
  | nil => simp
  | cons d rest ih =>
      rw [List.foldl_cons, ih, get?_loadDocument, Option.or_assoc, List.map_cons]
      by_cases huri : d.uri = uri
      · by_cases hrest : uri ∈ rest.map Document.uri <;> simp [huri, hrest]
      · simp [huri, Ne.symm huri]

section Keyed

variable (hkeyed : ∀ uri d, documents.get? uri = some d → d.uri = uri)
include hkeyed

theorem mem_uris_iff_isOpen {uri : Uri} :
    uri ∈ documents.documents.values.map Document.uri ↔ documents.isOpen uri = true := by
  have hget : ∀ {key d}, (key, d) ∈ documents.documents.entries ↔ documents.get? key = some d :=
    SortedMap.get?_eq_some_iff.symm
  rw [List.mem_map]
  constructor
  · rintro ⟨d, hd, rfl⟩
    obtain ⟨⟨key, _⟩, hentry, rfl⟩ := List.mem_map.1 hd
    have hopen := hget.1 hentry
    rw [hkeyed key _ hopen]
    exact Option.isSome_iff_exists.2 ⟨_, hopen⟩
  · intro hopen
    obtain ⟨d, hd⟩ := Option.isSome_iff_exists.1 hopen
    exact ⟨d, List.mem_map.2 ⟨(uri, d), hget.2 hd, rfl⟩, hkeyed uri d hd⟩

theorem get?_loadDocuments (s : Session) (uri : Uri) :
    (s.loadDocuments disk documents).sources.get? uri =
      (s.sources.get? uri).or ((openPath? documents uri).map (unitAt disk documents uri)) := by
  rw [loadDocuments, get?_foldl_loadDocument, openPath?]
  by_cases hopen : documents.isOpen uri = true
  · rw [if_pos ((mem_uris_iff_isOpen hkeyed).2 hopen), if_pos hopen, sourcePath?]
  · rw [if_neg (mt (mem_uris_iff_isOpen hkeyed).1 hopen), if_neg hopen, Option.map_none]

theorem get?_build (id : SessionId) (config : Config) (output : Path) (uri : Uri) :
    (build disk documents id config output).sources.get? uri =
      built? disk documents config.root uri := by
  rw [build, get?_loadDocuments hkeyed, get?_loadRoot, built?, Option.map_or]
  simp

end Keyed

end Session

/-- What reloading makes of a source, given what it was. -/
def reloaded (disk : FileTree) (documents : DocumentStore) (root : Option Path) (uri : Uri)
    (old : Option SourceUnit) : Option SourceUnit :=
  match uri.toPath? with
  | none => none
  | some path =>
      if path.isSource then
        if documents.isOpen uri || (root.any path.startsWith && disk.isFile path) then
          some (unitAt disk documents uri path)
        else none
      else old

section Reloaded

variable {root : Option Path} {uri : Uri} {old : Option SourceUnit}

theorem reloaded_of_isSource {path : Path} (hpath : uri.toPath? = some path)
    (hsource : path.isSource = true) :
    reloaded disk documents root uri old =
      if documents.isOpen uri || (root.any path.startsWith && disk.isFile path) then
        some (unitAt disk documents uri path)
      else none := by
  rw [reloaded, hpath]
  simp only [hsource, if_true]

/-- What has no source path stays out. -/
theorem reloaded_none (h : ∀ path, uri.toPath? = some path → ¬path.isSource = true) :
    reloaded disk documents root uri none = none := by
  unfold reloaded
  split
  · rfl
  · rename_i path hpath
    rw [if_neg (h path hpath)]

end Reloaded

namespace Session

theorem covers_eq_any (s : Session) (path : Path) :
    s.covers path = s.config.root.any path.startsWith := by
  unfold covers
  cases s.config.root <;> rfl

theorem get?_reload_self (s : Session) (uri : Uri) :
    (s.reload disk documents uri).sources.get? uri =
      reloaded disk documents s.config.root uri (s.sources.get? uri) := by
  unfold reload reloaded
  cases uri.toPath? with
  | none => exact s.sources.get?_erase_self uri
  | some path =>
      simp only [covers_eq_any]
      by_cases hsource : path.isSource = true
      · simp only [hsource, Bool.not_true, Bool.false_eq_true, if_false, if_true]
        split
        · exact get?_load_self s uri path
        · exact s.sources.get?_erase_self uri
      · simp only [hsource, Bool.not_false, if_true, Bool.false_eq_true, if_false]

/-- Reloading decides anew for each uri that is named, in whatever order they are named. -/
theorem get?_foldl_reload_of_nodup {uris : List Uri} (huris : uris.Nodup) (s : Session)
    (uri : Uri) :
    (uris.foldl (reload disk documents) s).sources.get? uri =
      if uri ∈ uris then reloaded disk documents s.config.root uri (s.sources.get? uri)
      else s.sources.get? uri := by
  split
  · rename_i hmem
    exact foldl_lookup_update (fun (s : Session) key => s.sources.get? key)
      (reload disk documents) (fun t => t.config = s.config)
      (reloaded disk documents s.config.root) (fun t uri h => (t.reload_config uri).trans h)
      (fun t _ _ => get?_reload_of_ne t) (fun t uri h => h ▸ get?_reload_self t uri)
      huris hmem rfl
  · rename_i hmem
    exact get?_foldl_reload_of_not_mem hmem s

theorem get?_foldl_reload (changed : UriSet) (s : Session) (uri : Uri) :
    (changed.keys.foldl (reload disk documents) s).sources.get? uri =
      if uri ∈ changed then reloaded disk documents s.config.root uri (s.sources.get? uri)
      else s.sources.get? uri := by
  rw [get?_foldl_reload_of_nodup changed.nodup_keys]
  simp only [SortedMap.mem_keys]

/-- The order in which the uris of a set are reloaded does not matter. -/
theorem foldl_reload_of_enumerates {uris : List Uri} (huris : uris.Nodup) {changed : UriSet}
    (hmem : ∀ uri, uri ∈ uris ↔ uri ∈ changed) (s : Session) :
    uris.foldl (reload disk documents) s = changed.keys.foldl (reload disk documents) s := by
  apply foldl_ext_sources reload_eq
  apply SortedMap.ext_get?
  intro uri
  rw [get?_foldl_reload_of_nodup huris, get?_foldl_reload]
  simp only [hmem]

/-- Every source lies at a source path, one whose file uri it has or the path of its own uri. -/
def Placed (s : Session) : Prop :=
  ∀ uri unit, s.sources.get? uri = some unit → unit.path.isSource = true ∧
    (Uri.ofPath? unit.path = some uri ∨ uri.toPath? = some unit.path)

theorem build_placed (hkeyed : ∀ uri d, documents.get? uri = some d → d.uri = uri)
    (id : SessionId) (config : Config) (output : Path) :
    (build disk documents id config output).Placed := by
  intro uri unit hunit
  rw [get?_build hkeyed, built?, Option.map_eq_some_iff] at hunit
  obtain ⟨path, hpath, rfl⟩ := hunit
  rcases Option.or_eq_some_iff.1 hpath with hfound | ⟨-, hopen⟩
  · obtain ⟨hmem, huri⟩ := uri_of_found? hfound
    exact ⟨FileTree.isSource_of_mem_searched hmem, .inl huri⟩
  · obtain ⟨-, hlocal, hsource⟩ := openPath?_eq_some_iff.1 hopen
    exact ⟨hsource, .inr hlocal⟩

theorem foldl_reload_placed {s : Session} (h : s.Placed) (changed : UriSet) :
    (changed.keys.foldl (reload disk documents) s).Placed := by
  intro uri unit hunit
  rw [get?_foldl_reload] at hunit
  split at hunit
  · unfold reloaded at hunit
    split at hunit
    · cases hunit
    · rename_i path hpath
      split at hunit
      · rename_i hsource
        split at hunit
        · cases hunit
          exact ⟨hsource, .inr hpath⟩
        · cases hunit
      · exact h uri unit hunit
  · exact h uri unit hunit

theorem compile_placed {s : Session} (h : s.Placed) (phase : Phase) :
    (s.compile phase).1.Placed := by
  intro uri unit hunit
  rw [get?_compile, Option.map_eq_some_iff] at hunit
  obtain ⟨source, hsource, rfl⟩ := hunit
  rw [SourceUnit.declared_path]
  exact h uri source hsource

/-- If a source lies at a path with some file uri, that is also the file uri of its path. -/
theorem Placed.ofPath?_toPath? {s : Session} (h : s.Placed) {uri other : Uri} {unit : SourceUnit}
    (hunit : s.sources.get? other = some unit) (hplace : Uri.ofPath? unit.path = some uri)
    {path : Path} (hpath : uri.toPath? = some path) : Uri.ofPath? path = some uri := by
  obtain ⟨place, hlocal, hcomponents, -⟩ :=
    Uri.exists_toPath?_of_ofPath? hplace (h other unit hunit).1
  obtain rfl := Option.some.inj (hpath.symm.trans hlocal)
  rw [Uri.ofPath?_congr hcomponents, hplace]

/-- The messages of a session are those of its sources, in the order of the uris. -/
def Checked (s : Session) : Prop :=
  s.messages = s.sources.values.flatMap (SourceUnit.check .boundary)

theorem compile_checked (s : Session) : (s.compile .boundary).1.Checked := by
  simp [Checked, compile, SortedMap.values, SortedMap.mapValues, List.flatMap_map,
    Function.comp_def]

end Session

end Scanning

end PipelineServer
