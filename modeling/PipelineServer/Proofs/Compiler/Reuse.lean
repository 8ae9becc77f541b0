import PipelineServer.Proofs.Compiler.Sources

/-!
Reloading against building from nothing.

Two rules say what a source is. The search goes down from the root, and leaves out some directories,
links and what lies too deep; reloading looks whether the path of a uri lies below the root and
leads to a file. Whatever the search finds is a source for reloading too
(`Scanning.found?_place`). So a session that is reloaded has the sources of a session built from
nothing, and besides at most files that were named and that the search does not find
(`Scanning.Stray`).
-/

namespace PipelineServer.Scanning

open FileTree (SuitsRoot SameRoot)

variable {disk : FileTree} {documents : DocumentStore} {root : Option Path} {uri : Uri}

/-- Units with the same path and text. Paths are the same when their components are. -/
structure SourceUnit.Alike (u v : SourceUnit) : Prop where
  path : u.path.components = v.path.components
  text : u.text = v.text

namespace SourceUnit

theorem Alike.refl (u : SourceUnit) : u.Alike u := ⟨rfl, rfl⟩

theorem rel_trans {a b c : Option SourceUnit} (hab : Option.Rel Alike a b)
    (hbc : Option.Rel Alike b c) : Option.Rel Alike a c := by
  cases hab with
  | none => exact hbc
  | some h =>
      cases hbc with
      | some h' => exact .some ⟨h.path.trans h'.path, h.text.trans h'.text⟩

theorem rel_none_iff {a : Option SourceUnit} : Option.Rel Alike a none ↔ a = none := by
  refine ⟨?_, ?_⟩
  · rintro ⟨⟩
    rfl
  · rintro rfl
    exact .none

theorem rel_declared {a b : Option SourceUnit} (phase : Phase) (h : Option.Rel Alike a b) :
    Option.Rel Alike (a.map (declared phase)) b := by
  cases h with
  | none => exact .none
  | @some u v h =>
      refine .some ⟨?_, ?_⟩
      · rw [declared_path, h.path]
      · rw [declared_text, h.text]

end SourceUnit

/-- A closed file that reloading takes for a source, although the search does not find it. -/
structure Stray (disk : FileTree) (documents : DocumentStore) (root : Option Path) (uri : Uri) :
    Prop where
  closed : ¬documents.isOpen uri = true
  missed : found? disk root uri = none
  inside : ∃ path, uri.toPath? = some path ∧ path.isSource = true ∧
    root.any path.startsWith = true ∧ disk.isFile path = true

theorem unitAt_alike {path place : Path} (hcomponents : path.components = place.components)
    (hread : disk.read path = disk.read place) :
    (unitAt disk documents uri path).Alike (unitAt disk documents uri place) := by
  refine ⟨hcomponents, ?_⟩
  simp only [unitAt, currentText, hread]

/-- What the search finds under a uri is what the path of the uri leads to, and it lies below the
root. -/
theorem found?_place (hproper : disk.Proper) (hsuits : SuitsRoot disk root)
    {path : Path} (h : found? disk root uri = some path) :
    ∃ place, uri.toPath? = some place ∧ path.components = place.components ∧
      place.isSource = true ∧ root.any place.startsWith = true ∧ disk.isFile place = true ∧
      disk.read path = disk.read place := by
  obtain ⟨hmem, huri⟩ := uri_of_found? h
  cases root with
  | none => cases hmem
  | some root =>
      have hroot := hsuits root rfl
      obtain ⟨dir, names, -, hfound, -, rfl, hsource⟩ := FileTree.mem_searched_iff.1 hmem
      obtain ⟨place, hplace, hcomponents, hsteps, hsublist, hne⟩ :=
        Uri.exists_toPath?_of_ofPath? huri hsource
      obtain ⟨hfile, hread⟩ :=
        FileTree.isFile_of_mem_searched hproper hroot hmem hsteps hsublist hne
      refine ⟨place, hplace, hcomponents.symm, ?_, ?_, hfile, hread.symm⟩
      · rw [Path.isSource_congr hcomponents, hsource]
      · rw [Option.any_some, Path.startsWith, hcomponents, hfound.components_eq hproper root,
          List.isPrefixOf_iff_prefix]
        exact List.prefix_append _ _

theorem built?_of_found? {path : Path} (h : found? disk root uri = some path) :
    built? disk documents root uri = some (unitAt disk documents uri path) := by
  rw [built?, h]
  rfl

theorem built?_of_missed (h : found? disk root uri = none) :
    built? disk documents root uri =
      (openPath? documents uri).map (unitAt disk documents uri) := by
  rw [built?, h, Option.none_or]

/-- Only uris with a source path are sources. -/
theorem built?_eq_none (hproper : disk.Proper) (hsuits : SuitsRoot disk root)
    (h : ∀ path, uri.toPath? = some path → ¬path.isSource = true) :
    built? disk documents root uri = none := by
  have hmissed : found? disk root uri = none := by
    rw [Option.eq_none_iff_forall_ne_some]
    intro path hfound
    obtain ⟨place, hplace, -, hsource, -⟩ := found?_place hproper hsuits hfound
    exact h place hplace hsource
  have hclosed : openPath? documents uri = none := by
    rw [Option.eq_none_iff_forall_ne_some]
    intro path hopen
    obtain ⟨-, hpath, hsource⟩ := openPath?_eq_some_iff.1 hopen
    exact h path hpath hsource
  rw [built?_of_missed hmissed, hclosed, Option.map_none]

/-- A new session does not have strays. -/
theorem Stray.built?_eq_none (h : Stray disk documents root uri) :
    built? disk documents root uri = none := by
  rw [built?_of_missed h.missed, openPath?, if_neg h.closed, Option.map_none]

theorem Stray.rel_built?_iff (h : Stray disk documents root uri) (s : Session) :
    Option.Rel SourceUnit.Alike (s.sources.get? uri) (built? disk documents root uri) ↔
      uri ∉ s.sources := by
  rw [h.built?_eq_none, SourceUnit.rel_none_iff, SortedMap.mem_iff_isSome,
    Option.not_isSome_iff_eq_none]

/-- Reloading leads to the unit a new session would have, or to a stray. -/
theorem reloaded_rel_built? (hproper : disk.Proper) (hsuits : SuitsRoot disk root)
    {old : Option SourceUnit}
    (hold : (∀ path, uri.toPath? = some path → ¬path.isSource = true) → old = none) :
    Option.Rel SourceUnit.Alike (reloaded disk documents root uri old)
        (built? disk documents root uri) ∨
      Stray disk documents root uri := by
  by_cases hsources : ∃ path, uri.toPath? = some path ∧ path.isSource = true
  · obtain ⟨path, hpath, hsource⟩ := hsources
    rw [reloaded_of_isSource hpath hsource]
    cases hfound : found? disk root uri with
    | some shown =>
        left
        obtain ⟨place, hplace, hcomponents, -, hinside, hfile, hread⟩ :=
          found?_place hproper hsuits hfound
        obtain rfl := Option.some.inj (hpath.symm.trans hplace)
        rw [built?_of_found? hfound, hinside, hfile, Bool.and_self, Bool.or_true, if_pos rfl]
        exact .some (unitAt_alike hcomponents.symm hread.symm)
    | none =>
        rw [built?_of_missed hfound]
        by_cases hopen : documents.isOpen uri = true
        · left
          rw [openPath?_eq_some_iff.2 ⟨hopen, hpath, hsource⟩, hopen, Bool.true_or, if_pos rfl]
          exact .some (.refl _)
        · by_cases hinside : (root.any path.startsWith && disk.isFile path) = true
          · right
            rw [Bool.and_eq_true] at hinside
            exact ⟨hopen, hfound, path, hpath, hsource, hinside⟩
          · left
            rw [if_neg (by simp [hopen, hinside]), openPath?, if_neg hopen]
            exact .none
  · left
    have hnone : ∀ path, uri.toPath? = some path → ¬path.isSource = true :=
      fun path hpath hsource => hsources ⟨path, hpath, hsource⟩
    rw [built?_eq_none hproper hsuits hnone, hold hnone, reloaded_none hnone]
    exact .none

/-- A document that did not move has the text it had. -/
theorem unitAt_of_get?_eq {old : DocumentStore} (h : documents.get? uri = old.get? uri) :
    unitAt disk documents uri = unitAt disk old uri := by
  have htext : documents.text? uri = old.text? uri := congrArg (Option.map Document.text) h
  funext path
  rw [unitAt, unitAt, currentText, currentText, htext]

/-- A document that did not move is as much a source as before. -/
theorem built?_of_get?_eq {old : DocumentStore} (h : documents.get? uri = old.get? uri) :
    built? disk documents root uri = built? disk old root uri := by
  have hopen : documents.isOpen uri = old.isOpen uri := congrArg Option.isSome h
  have hpath : openPath? documents uri = openPath? old uri := by rw [openPath?, openPath?, hopen]
  rw [built?, built?, hpath, unitAt_of_get?_eq h]

theorem reloaded_of_get?_eq {old : DocumentStore} (h : documents.get? uri = old.get? uri)
    (unit : Option SourceUnit) :
    reloaded disk documents root uri unit = reloaded disk old root uri unit := by
  have hopen : documents.isOpen uri = old.isOpen uri := congrArg Option.isSome h
  rw [reloaded, reloaded, hopen, unitAt_of_get?_eq h]

section SameRoot

variable {other : Option Path}

theorem found?_eq_none_of_same (hproper : disk.Proper) (hsame : SameRoot disk root other)
    (h : found? disk other uri = none) : found? disk root uri = none := by
  rw [← Option.not_isSome_iff_eq_none, found?_isSome_iff] at h ⊢
  rintro ⟨path, hmem, huri⟩
  obtain ⟨path', hmem', hcomponents⟩ := FileTree.mem_searched_of_same hproper hsame hmem
  exact h ⟨path', hmem', (Uri.ofPath?_congr hcomponents).trans huri⟩

theorem built?_rel_of_same (hproper : disk.Proper) (hsame : SameRoot disk root other) :
    Option.Rel SourceUnit.Alike (built? disk documents root uri)
      (built? disk documents other uri) := by
  cases hfound : found? disk root uri with
  | none =>
      have hfound' := found?_eq_none_of_same hproper hsame.symm hfound
      rw [built?_of_missed hfound, built?_of_missed hfound']
      cases openPath? documents uri with
      | none => exact .none
      | some path => exact .some (.refl _)
  | some path =>
      cases hfound' : found? disk other uri with
      | none =>
          rw [found?_eq_none_of_same hproper hsame hfound'] at hfound
          cases hfound
      | some path' =>
          obtain ⟨place, hplace, hcomponents, -, -, -, hread⟩ :=
            found?_place hproper hsame.suits hfound
          obtain ⟨place', hplace', hcomponents', -, -, -, hread'⟩ :=
            found?_place hproper hsame.suited hfound'
          obtain rfl := Option.some.inj (hplace.symm.trans hplace')
          rw [built?_of_found? hfound, built?_of_found? hfound']
          exact .some (unitAt_alike (hcomponents.trans hcomponents'.symm)
            (hread.trans hread'.symm))

theorem Stray.of_same (h : Stray disk documents root uri) (hproper : disk.Proper)
    (hsame : SameRoot disk root other) : Stray disk documents other uri := by
  refine ⟨h.closed, found?_eq_none_of_same hproper hsame.symm h.missed, ?_⟩
  obtain ⟨path, hpath, hsource, hinside, hfile⟩ := h.inside
  refine ⟨path, hpath, hsource, ?_, hfile⟩
  have hcomponents := hsame.components
  cases root with
  | none => cases hinside
  | some r =>
      cases other with
      | none => cases hcomponents
      | some r' =>
          rw [Option.any_some] at hinside ⊢
          rw [← Path.startsWith_congr rfl (Option.some.inj hcomponents), hinside]

end SameRoot

/-- Two disks that are the same to a session: the search finds the same paths, and what source paths
lead to can be read alike. -/
structure SameSources (disk other : FileTree) : Prop where
  searched : ∀ root, other.searched root = disk.searched root
  isFile : ∀ path, path.isSource = true → other.isFile path = disk.isFile path
  read : ∀ path, path.isSource = true → other.read path = disk.read path

namespace SameSources

variable {other : FileTree}

theorem of_eq (h : other = disk) : SameSources disk other := by
  subst h
  exact ⟨fun _ => rfl, fun _ _ => rfl, fun _ _ => rfl⟩

theorem unitAt_eq (h : SameSources disk other) {path : Path} (hsource : path.isSource = true) :
    unitAt other documents uri path = unitAt disk documents uri path := by
  rw [unitAt, unitAt, currentText, currentText, h.read path hsource]

theorem found?_eq (h : SameSources disk other) (root : Option Path) (uri : Uri) :
    found? other root uri = found? disk root uri := by
  rw [found?, found?, h.searched]

theorem built?_eq (h : SameSources disk other) (documents : DocumentStore) (root : Option Path)
    (uri : Uri) : built? other documents root uri = built? disk documents root uri := by
  rw [built?, built?, h.found?_eq]
  apply Option.map_congr
  intro path hpath
  have hsource : path.isSource = true := by
    rcases Option.or_eq_some_iff.1 hpath with hfound | ⟨-, hopen⟩
    · exact FileTree.isSource_of_mem_searched (uri_of_found? hfound).1
    · exact (openPath?_eq_some_iff.1 hopen).2.2
  exact h.unitAt_eq hsource

theorem reloaded_eq (h : SameSources disk other) (documents : DocumentStore) (root : Option Path)
    (uri : Uri) (old : Option SourceUnit) :
    reloaded other documents root uri old = reloaded disk documents root uri old := by
  unfold reloaded
  split
  · rfl
  · rename_i path _
    by_cases hsource : path.isSource = true
    · simp only [hsource, if_true, h.isFile path hsource, h.unitAt_eq hsource]
    · simp only [hsource]
      rfl

end SameSources

namespace Session

/-- The session has the sources of one built from nothing, and besides at most named strays. -/
def Agrees (disk : FileTree) (documents : DocumentStore) (named : Uri → Prop) (s : Session) :
    Prop :=
  ∀ uri, Option.Rel SourceUnit.Alike (s.sources.get? uri)
      (built? disk documents s.config.root uri) ∨
    named uri ∧ Stray disk documents s.config.root uri

variable {named : Uri → Prop}

theorem build_agrees {other : FileTree} (hsame : SameSources disk other)
    (hkeyed : ∀ uri d, documents.get? uri = some d → d.uri = uri) (id : SessionId) (config : Config)
    (output : Path) : (build other documents id config output).Agrees disk documents named := by
  intro uri
  left
  rw [get?_build hkeyed, build_config, hsame.built?_eq]
  cases built? disk documents config.root uri with
  | none => exact .none
  | some unit => exact .some (.refl unit)

theorem Agrees.eq_none {s : Session} (h : s.Agrees disk documents named) (hproper : disk.Proper)
    (hsuits : SuitsRoot disk s.config.root)
    (hnone : ∀ path, uri.toPath? = some path → ¬path.isSource = true) :
    s.sources.get? uri = none := by
  rcases h uri with hrel | ⟨-, hstray⟩
  · rw [built?_eq_none hproper hsuits hnone] at hrel
    exact SourceUnit.rel_none_iff.1 hrel
  · obtain ⟨path, hpath, hsource, -⟩ := hstray.inside
    exact absurd hsource (hnone path hpath)

theorem foldl_reload_agrees {other : FileTree} {old : DocumentStore} {s : Session}
    (hproper : disk.Proper) (hsame : SameSources disk other) (hsuits : SuitsRoot disk s.config.root)
    (h : s.Agrees disk old named) {changed : UriSet}
    (hunmarked : ∀ uri, uri ∉ changed → documents.get? uri = old.get? uri)
    (hnamed : ∀ uri, uri ∈ changed → named uri) :
    (changed.keys.foldl (reload other documents) s).Agrees disk documents named := by
  intro uri
  rw [get?_foldl_reload, foldl_reload_config]
  split
  · rename_i hchanged
    rw [hsame.reloaded_eq]
    rcases reloaded_rel_built? hproper hsuits (h.eq_none hproper hsuits) with hrel | hstray
    · exact .inl hrel
    · exact .inr ⟨hnamed uri hchanged, hstray⟩
  · rename_i hunchanged
    have hget := hunmarked uri hunchanged
    rcases h uri with hrel | ⟨hname, hstray⟩
    · exact .inl (built?_of_get?_eq hget ▸ hrel)
    · have hopen : documents.isOpen uri = old.isOpen uri := congrArg Option.isSome hget
      exact .inr ⟨hname, hopen ▸ hstray.closed, hstray.missed, hstray.inside⟩

theorem compile_agrees {s : Session} (h : s.Agrees disk documents named) (phase : Phase) :
    (s.compile phase).1.Agrees disk documents named := by
  intro uri
  rw [get?_compile]
  exact (h uri).imp_left (SourceUnit.rel_declared phase)

theorem Agrees.mono {s : Session} (h : s.Agrees disk documents named) {named' : Uri → Prop}
    (hnamed : ∀ uri, named uri → named' uri) : s.Agrees disk documents named' :=
  fun uri => (h uri).imp_right (And.imp_left (hnamed uri))

section SameRoot

variable {s : Session} {other : Option Path}

theorem Agrees.of_same (h : s.Agrees disk documents named) (hproper : disk.Proper)
    (hsame : SameRoot disk s.config.root other) (uri : Uri) :
    Option.Rel SourceUnit.Alike (s.sources.get? uri) (built? disk documents other uri) ∨
      named uri ∧ Stray disk documents other uri := by
  rcases h uri with hrel | ⟨hnamed, hstray⟩
  · exact .inl (SourceUnit.rel_trans hrel (built?_rel_of_same hproper hsame))
  · exact .inr ⟨hnamed, hstray.of_same hproper hsame⟩

/-- The session differs from a new one just where it has a stray. -/
theorem Agrees.rel_built?_iff (h : s.Agrees disk documents named) (hproper : disk.Proper)
    (hsame : SameRoot disk s.config.root other) (uri : Uri) :
    Option.Rel SourceUnit.Alike (s.sources.get? uri) (built? disk documents other uri) ↔
      ¬(Stray disk documents other uri ∧ uri ∈ s.sources) := by
  refine ⟨?_, ?_⟩
  · rintro hrel ⟨hstray, hmem⟩
    exact (hstray.rel_built?_iff s).1 hrel hmem
  · intro hnone
    rcases h.of_same hproper hsame uri with hrel | ⟨-, hstray⟩
    · exact hrel
    · exact (hstray.rel_built?_iff s).2 fun hmem => hnone ⟨hstray, hmem⟩

theorem Agrees.named_of_stray (h : s.Agrees disk documents named) (hproper : disk.Proper)
    (hsame : SameRoot disk s.config.root other) (hstray : Stray disk documents other uri)
    (hmem : uri ∈ s.sources) : named uri := by
  rcases h.of_same hproper hsame uri with hrel | ⟨hnamed, -⟩
  · exact absurd hmem ((hstray.rel_built?_iff s).1 hrel)
  · exact hnamed

end SameRoot

end Session

end PipelineServer.Scanning
