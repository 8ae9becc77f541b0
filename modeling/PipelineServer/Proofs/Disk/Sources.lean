import PipelineServer.Proofs.Disk.Lookup
import PipelineServer.Proofs.SortedMap

/-!
What the search for source files finds.

`FileTree.Found` is the search as a relation: the names on the way down from the root to a file.
As long as no path is too long (`FileTree.SuitsSearch`), a source that is found can be looked up
under the path it is found at, and its way is the same from every spelling of the root.
-/

namespace PipelineServer

instance (c : Component) : Decidable c.Readable := inferInstanceAs (Decidable (_ ∧ _))

namespace FileTree

variable {tree : FileTree}

/-- A name as a file system has it: not empty, without slash and zero byte, none of the two dot
names, and not too long. -/
def ProperName (name : FileName) : Prop :=
  (Component.name name).Readable ∧ 0 ∉ name ∧ name.length ≤ nameLimit

instance (name : FileName) : Decidable (ProperName name) := inferInstanceAs (Decidable (_ ∧ _))

/-- All names of the tree are proper. -/
def Proper (tree : FileTree) : Prop := ∀ loc ∈ tree.entries.keys, ∀ name ∈ loc, ProperName name

instance (tree : FileTree) : Decidable tree.Proper :=
  inferInstanceAs (Decidable (∀ loc ∈ tree.entries.keys, ∀ name ∈ loc, ProperName name))

/-- From a directory, the search gets along some names to a file. -/
inductive Found (tree : FileTree) : Nat → Location → List FileName → Prop
  | file {depth : Nat} {dir : Location} {name : FileName} {content : List UInt8} {locked : Bool}
      (hdir : tree.isOpen dir = true)
      (hentry : tree.entry? (dir ++ [name]) = some (.file content locked)) :
      Found tree (depth + 1) dir [name]
  | directory {depth : Nat} {dir : Location} {name : FileName} {locked : Bool}
      {names : List FileName} (hdir : tree.isOpen dir = true)
      (hentry : tree.entry? (dir ++ [name]) = some (.directory locked))
      (hkept : name ∉ skippedNames.map Text.encodeUtf8)
      (h : Found tree depth (dir ++ [name]) names) : Found tree (depth + 1) dir (name :: names)

/-- The path of every directory on the way along the names can be looked up. -/
def Listed (shown : Path) (names : List FileName) : Prop :=
  ∀ above name below, names = above ++ name :: below →
    refusal? (above.foldl Path.join shown) = none

theorem listed_nil (shown : Path) : Listed shown [] := by
  intro above name below h
  simp at h

theorem listed_cons_iff {shown : Path} {name : FileName} {names : List FileName} :
    Listed shown (name :: names) ↔ refusal? shown = none ∧ Listed (shown.join name) names := by
  constructor
  · intro h
    refine ⟨h [] name names rfl, ?_⟩
    rintro above name' below rfl
    exact h (name :: above) name' below rfl
  · rintro ⟨hshown, h⟩ above name' below hnames
    cases above with
    | nil => exact hshown
    | cons first above =>
        obtain ⟨rfl, hrest⟩ := List.cons.inj hnames
        exact h above name' below hrest

/-- If the last path can be looked up, so can all before it. -/
theorem listed_of_refusal? {shown : Path} {names : List FileName}
    (hnames : ∀ name ∈ names, (Component.name name).Readable)
    (h : refusal? (names.foldl Path.join shown) = none) : Listed shown names := by
  rintro above name below rfl
  rw [List.foldl_append] at h
  refine refusal?_of_sublist (Path.bytes_sublist_foldl_join _ ?_) h
  exact fun name' hname' => hnames name' (List.mem_append_right above hname')

/-- An absolute root. No source file below it that lies within the depth of the search has a path
that is too long to be looked up. -/
structure SuitsSearch (tree : FileTree) (root : Path) : Prop where
  absolute : root.isAbsolute = true
  short : ∀ dir names, resolveFrom tree true linkLimit tree.working root.components = .ok dir →
    Found tree searchDepth dir names → (names.foldl Path.join root).isSource = true →
      (names.foldl Path.join root).bytes.length ≤ pathLimit

/-- The root suits the search, if there is one. -/
def SuitsRoot (tree : FileTree) (root : Option Path) : Prop :=
  ∀ path, root = some path → SuitsSearch tree path

/-- Two spellings of a root that both suit the search. -/
structure SameRoot (tree : FileTree) (root other : Option Path) : Prop where
  suits : SuitsRoot tree root
  suited : SuitsRoot tree other
  components : root.map Path.components = other.map Path.components

theorem SameRoot.symm {root other : Option Path} (h : SameRoot tree root other) :
    SameRoot tree other root :=
  ⟨h.suited, h.suits, h.components.symm⟩

theorem entry?_append (dir : Location) (name : FileName) :
    tree.entry? (dir ++ [name]) = tree.entries.get? (dir ++ [name]) := by
  unfold entry?
  rw [if_neg (by simp)]

theorem childName?_eq_some_iff {dir loc : Location} {name : FileName} :
    childName? dir loc = some name ↔ loc = dir ++ [name] := by
  unfold childName?
  constructor
  · intro h
    split at h
    · split at h
      · cases h
        assumption
      · cases h
    · cases h
  · rintro rfl
    simp

theorem mem_children_iff {dir : Location} {name : FileName} {entry : Entry} :
    (name, entry) ∈ tree.children dir ↔ tree.entry? (dir ++ [name]) = some entry := by
  rw [entry?_append, SortedMap.get?_eq_some_iff, children, List.mem_filterMap]
  constructor
  · rintro ⟨⟨loc, entry'⟩, hmem, hchild⟩
    obtain ⟨name', hname', heq⟩ := Option.map_eq_some_iff.1 hchild
    cases heq
    obtain rfl : loc = dir ++ [name] := childName?_eq_some_iff.1 hname'
    exact hmem
  · intro hmem
    exact ⟨_, hmem, by rw [childName?_eq_some_iff.2 rfl, Option.map_some]⟩

theorem sourcesBelow_eq_nil {dir : Location} {shown : Path}
    (h : ¬(tree.isOpen dir = true ∧ refusal? shown = none)) (depth : Nat) :
    tree.sourcesBelow depth dir shown = [] := by
  cases depth with
  | zero => rfl
  | succ depth =>
      rw [sourcesBelow, if_neg]
      rwa [Bool.and_eq_true, Option.isNone_iff_eq_none]

theorem exists_found_of_mem_sourcesBelow {depth : Nat} {dir : Location} {shown path : Path}
    (h : path ∈ tree.sourcesBelow depth dir shown) :
    ∃ names, Found tree depth dir names ∧ Listed shown names ∧
      path = names.foldl Path.join shown ∧ path.isSource = true := by
  induction depth generalizing dir shown with
  | zero => cases h
  | succ depth ih =>
      by_cases hdir : tree.isOpen dir = true ∧ refusal? shown = none
      · obtain ⟨hopen, hlisted⟩ := hdir
        rw [sourcesBelow, if_pos (by simp [hopen, hlisted]), List.mem_flatMap] at h
        obtain ⟨⟨name, entry⟩, hchild, hpath⟩ := h
        have hentry := mem_children_iff.1 hchild
        cases entry with
        | file content locked =>
            obtain ⟨hsource, hpath⟩ := List.mem_ite_nil_right.1 hpath
            obtain rfl := List.mem_singleton.1 hpath
            exact ⟨[name], .file hopen hentry, listed_cons_iff.2 ⟨hlisted, listed_nil _⟩, rfl,
              hsource⟩
        | directory locked =>
            obtain ⟨hkept, hpath⟩ := List.mem_ite_nil_left.1 hpath
            obtain ⟨names, hfound, hbelow, hshown, hsource⟩ := ih hpath
            rw [List.contains_iff_mem] at hkept
            exact ⟨name :: names, .directory hopen hentry hkept hfound,
              listed_cons_iff.2 ⟨hlisted, hbelow⟩, hshown, hsource⟩
        | link target => cases hpath
      · rw [sourcesBelow_eq_nil hdir] at h
        cases h

theorem Found.mem_sourcesBelow {depth : Nat} {dir : Location} {shown : Path}
    {names : List FileName} (h : Found tree depth dir names) (hlisted : Listed shown names)
    (hsource : (names.foldl Path.join shown).isSource = true) :
    names.foldl Path.join shown ∈ tree.sourcesBelow depth dir shown := by
  induction h generalizing shown with
  | file hopen hentry =>
      have hhere := (listed_cons_iff.1 hlisted).1
      rw [sourcesBelow, if_pos (by simp [hopen, hhere]), List.mem_flatMap]
      refine ⟨_, mem_children_iff.2 hentry, ?_⟩
      exact List.mem_ite_nil_right.2 ⟨hsource, List.mem_singleton_self _⟩
  | directory hopen hentry hkept h ih =>
      obtain ⟨hhere, hbelow⟩ := listed_cons_iff.1 hlisted
      rw [sourcesBelow, if_pos (by simp [hopen, hhere]), List.mem_flatMap]
      refine ⟨_, mem_children_iff.2 hentry, ?_⟩
      simp only [List.contains_iff_mem, hkept, if_false]
      exact ih hbelow hsource

theorem mem_sourcesBelow_iff {depth : Nat} {dir : Location} {shown path : Path} :
    path ∈ tree.sourcesBelow depth dir shown ↔
      ∃ names, Found tree depth dir names ∧ Listed shown names ∧
        path = names.foldl Path.join shown ∧ path.isSource = true := by
  constructor
  · exact exists_found_of_mem_sourcesBelow
  · rintro ⟨names, hfound, hlisted, rfl, hsource⟩
    exact hfound.mem_sourcesBelow hlisted hsource

theorem Proper.name_of_entry (hproper : tree.Proper) {dir : Location} {name : FileName}
    {entry : Entry} (hentry : tree.entry? (dir ++ [name]) = some entry) : ProperName name := by
  have hkey : dir ++ [name] ∈ tree.entries.keys := by
    rw [entry?_append] at hentry
    exact SortedMap.mem_keys.2 (SortedMap.mem_iff_exists.2 ⟨entry, hentry⟩)
  exact hproper _ hkey name (List.mem_append_right dir List.mem_cons_self)

namespace Found

variable {depth : Nat} {dir : Location} {names : List FileName}

theorem isOpen (h : Found tree depth dir names) : tree.isOpen dir = true := by
  cases h <;> assumption

theorem ne_nil (h : Found tree depth dir names) : names ≠ [] := by
  cases h <;> exact List.cons_ne_nil _ _

theorem length_le (h : Found tree depth dir names) : names.length ≤ depth := by
  induction h with
  | file => simp
  | directory hdir hentry hkept h ih => simpa using ih

theorem proper (h : Found tree depth dir names) (hproper : tree.Proper) :
    ∀ name ∈ names, ProperName name := by
  induction h with
  | file hdir hentry =>
      intro name hname
      obtain rfl := List.mem_singleton.1 hname
      exact hproper.name_of_entry hentry
  | directory hdir hentry hkept h ih =>
      intro name hname
      rcases List.mem_cons.1 hname with rfl | hrest
      · exact hproper.name_of_entry hentry
      · exact ih name hrest

theorem ends_at_file (h : Found tree depth dir names) :
    ∃ content locked, tree.entry? (dir ++ names) = some (.file content locked) := by
  induction h with
  | file hdir hentry => exact ⟨_, _, hentry⟩
  | directory hdir hentry hkept h ih =>
      rw [List.append_assoc] at ih
      exact ih

/-- No link is passed on the way of the search. -/
theorem walks (h : Found tree depth dir names) (hproper : tree.Proper) (n : Nat) :
    Walks tree true n dir (names.map .name) (dir ++ names) := by
  induction h with
  | file hdir hentry => exact .enter hdir (hproper.name_of_entry hentry).2.2 hentry nofun .done
  | directory hdir hentry hkept h ih =>
      rw [List.append_assoc] at ih
      exact .enter hdir (hproper.name_of_entry hentry).2.2 hentry nofun ih

end Found

section Root

variable {root : Path} {dir : Location} {names : List FileName}

theorem isDirectory_iff {p : Path} :
    tree.isDirectory p = true ↔
      ∃ dir locked, tree.resolve true p = .ok dir ∧ tree.entry? dir = some (.directory locked) := by
  unfold isDirectory lookup?
  cases tree.resolve true p with
  | error e => simp
  | ok dir =>
      cases hentry : tree.entry? dir with
      | none => simp [hentry]
      | some entry => cases entry <;> simp [hentry]

/-- The search starts behind the link if the root is one. -/
theorem sourceFiles_of_resolve {locked : Bool} (hroot : tree.resolve true root = .ok dir)
    (hdir : tree.entry? dir = some (.directory locked)) :
    tree.sourceFiles root = tree.sourcesBelow searchDepth dir root := by
  obtain ⟨hrefusal, hne, hwalks⟩ := resolve_eq_ok_iff.1 hroot
  obtain ⟨place, hplace, hends⟩ := hwalks.unfollowed
  have hunfollowed : tree.resolve false root = .ok place :=
    resolve_eq_ok_iff.2 ⟨hrefusal, hne, hplace⟩
  rw [sourceFiles, lookup?, hunfollowed]
  rcases hends with rfl | ⟨target, htarget⟩
  · simp only [hdir, hroot]
  · simp only [htarget, hroot]

/-- The source files that a session takes from the disk. -/
def searched (tree : FileTree) (root : Option Path) : List Path :=
  match root with
  | none => []
  | some root => if tree.isDirectory root then tree.sourceFiles root else []

theorem mem_searched_iff {path : Path} :
    path ∈ tree.searched (some root) ↔
      ∃ dir names, tree.resolve true root = .ok dir ∧ Found tree searchDepth dir names ∧
        Listed root names ∧ path = names.foldl Path.join root ∧ path.isSource = true := by
  rw [searched]
  constructor
  · intro hpath
    split at hpath
    · rename_i hdirectory
      obtain ⟨dir, locked, hroot, hdir⟩ := isDirectory_iff.1 hdirectory
      rw [sourceFiles_of_resolve hroot hdir, mem_sourcesBelow_iff] at hpath
      obtain ⟨names, hfound, hpath⟩ := hpath
      exact ⟨dir, names, hroot, hfound, hpath⟩
    · cases hpath
  · rintro ⟨dir, names, hroot, hfound, hpath⟩
    have hdir := isOpen_iff.1 hfound.isOpen
    rw [if_pos (isDirectory_iff.2 ⟨dir, false, hroot, hdir⟩), sourceFiles_of_resolve hroot hdir,
      mem_sourcesBelow_iff]
    exact ⟨names, hfound, hpath⟩

theorem SuitsSearch.ne_nil (h : SuitsSearch tree root) : root.bytes ≠ [] := by
  obtain ⟨rest, hbytes, -⟩ := Path.exists_of_isAbsolute h.absolute
  simp [hbytes]

theorem isSource_of_mem_searched {root : Option Path} {path : Path}
    (h : path ∈ tree.searched root) : path.isSource = true := by
  cases root with
  | none => cases h
  | some root =>
      obtain ⟨_, _, _, _, _, _, hsource⟩ := mem_searched_iff.1 h
      exact hsource

namespace Found

theorem readable {depth : Nat} (h : Found tree depth dir names) (hproper : tree.Proper) :
    ∀ name ∈ names, (Component.name name).Readable :=
  fun name hname => (h.proper hproper name hname).1

theorem components_eq {depth : Nat} (h : Found tree depth dir names) (hproper : tree.Proper)
    (root : Path) : (names.foldl Path.join root).components = root.components ++ names.map .name :=
  Path.components_foldl_join root (h.readable hproper)

theorem zero_not_mem {depth : Nat} (h : Found tree depth dir names) (hproper : tree.Proper)
    (hroot : 0 ∉ root.bytes) : 0 ∉ (names.foldl Path.join root).bytes := by
  intro hzero
  rcases Path.mem_bytes_foldl_join (h.readable hproper) hzero with
    hzero | hslash | ⟨name, hname, hzero⟩
  · exact hroot hzero
  · exact absurd hslash (by decide)
  · exact (h.proper hproper name hname).2.1 hzero

theorem refusal?_eq_none (h : Found tree searchDepth dir names) (hproper : tree.Proper)
    (hsuits : SuitsSearch tree root) (hroot : tree.resolve true root = .ok dir)
    (hsource : (names.foldl Path.join root).isSource = true) :
    refusal? (names.foldl Path.join root) = none := by
  obtain ⟨hrefusal, -, hwalks⟩ := resolve_eq_ok_iff.1 hroot
  rw [walks_steps_iff h.isOpen] at hwalks
  rw [refusal?_eq_none_iff] at hrefusal ⊢
  exact ⟨h.zero_not_mem hproper hrefusal.1,
    hsuits.short dir names (resolveFrom_eq_ok_iff.2 hwalks) h hsource⟩

/-- A file that is found lies where its path leads. -/
theorem resolve_eq (h : Found tree searchDepth dir names) (hproper : tree.Proper)
    (hsuits : SuitsSearch tree root) (hroot : tree.resolve true root = .ok dir)
    (hsource : (names.foldl Path.join root).isSource = true) :
    tree.resolve true (names.foldl Path.join root) = .ok (dir ++ names) := by
  obtain ⟨-, -, hwalks⟩ := resolve_eq_ok_iff.1 hroot
  have hreadable := h.readable hproper
  rw [walks_steps_iff h.isOpen] at hwalks
  rw [resolve_eq_ok_iff]
  refine ⟨h.refusal?_eq_none hproper hsuits hroot hsource, ?_, ?_⟩
  · obtain ⟨rest, hbytes, -⟩ :=
      Path.exists_of_isAbsolute (Path.isAbsolute_foldl_join hsuits.absolute hreadable)
    simp [hbytes]
  · rw [Path.steps_foldl_join root hreadable h.ne_nil, h.components_eq hproper root]
    exact hwalks.append h.isOpen (fun _ => rfl) fun n => h.walks hproper n

/-- Another spelling of the root leads to the same directory, if a source is found there. -/
theorem resolve_of_components {other : Path} (h : Found tree searchDepth dir names)
    (hproper : tree.Proper) (hroot : tree.resolve true root = .ok dir)
    (hsame : root.components = other.components) (hsuits : SuitsSearch tree root)
    (hother : SuitsSearch tree other) (hsource : (names.foldl Path.join other).isSource = true) :
    tree.resolve true other = .ok dir := by
  obtain ⟨hrefusal, -, hwalks⟩ := resolve_eq_ok_iff.1 hroot
  rw [walks_steps_iff h.isOpen, hsame] at hwalks
  have hshort := hother.short dir names (resolveFrom_eq_ok_iff.2 hwalks) h hsource
  rw [← walks_steps_iff h.isOpen] at hwalks
  refine resolve_eq_ok_iff.2 ⟨?_, hother.ne_nil, hwalks⟩
  rw [refusal?_eq_none_iff] at hrefusal ⊢
  rw [Path.mem_bytes_iff hsuits.absolute (by decide) (by decide), hsame,
    ← Path.mem_bytes_iff hother.absolute (by decide) (by decide)] at hrefusal
  have hsublist := Path.bytes_sublist_foldl_join other (h.readable hproper)
  exact ⟨hrefusal.1, Nat.le_trans hsublist.length_le hshort⟩

end Found

/-- A root with room for as many names as the search goes down suits it, whatever lies below. -/
theorem SuitsSearch.of_room (hproper : tree.Proper) (habsolute : root.isAbsolute = true)
    (hroom : root.bytes.length + searchDepth * (nameLimit + 1) ≤ pathLimit) :
    SuitsSearch tree root := by
  refine ⟨habsolute, ?_⟩
  intro dir names _ hfound _
  have hlength := Path.length_foldl_join_le root (hfound.readable hproper) fun name hname =>
    (hfound.proper hproper name hname).2.2
  have hdepth : names.length * (nameLimit + 1) ≤ searchDepth * (nameLimit + 1) :=
    Nat.mul_le_mul_right _ hfound.length_le
  omega

/-- The search finds the same files from another spelling of the root. -/
theorem mem_searched_of_same {root other : Option Path} {path : Path} (hproper : tree.Proper)
    (hsame : SameRoot tree root other) (h : path ∈ tree.searched root) :
    ∃ path' ∈ tree.searched other, path'.components = path.components := by
  obtain ⟨hsuits, hsuited, hcomponents⟩ := hsame
  cases root with
  | none => cases h
  | some root =>
      cases other with
      | none => cases hcomponents
      | some other =>
          have hroot := hsuits root rfl
          have hother := hsuited other rfl
          have hspelt : root.components = other.components := Option.some.inj hcomponents
          obtain ⟨dir, names, hdir, hfound, -, rfl, hsource⟩ := mem_searched_iff.1 h
          have hpath : (names.foldl Path.join other).components =
              (names.foldl Path.join root).components := by
            rw [hfound.components_eq hproper root, hfound.components_eq hproper other, hspelt]
          rw [← Path.isSource_congr hpath] at hsource
          have hresolve := hfound.resolve_of_components hproper hdir hspelt hroot hother hsource
          have hlisted := listed_of_refusal? (hfound.readable hproper)
            (hfound.refusal?_eq_none hproper hother hresolve hsource)
          exact ⟨names.foldl Path.join other,
            mem_searched_iff.2 ⟨dir, names, hresolve, hfound, hlisted, rfl, hsource⟩, hpath⟩

/-- A file that is found can be looked up under every path with the same steps, if that is not
longer. -/
theorem isFile_of_mem_searched {path place : Path} (hproper : tree.Proper)
    (hsuits : SuitsSearch tree root) (h : path ∈ tree.searched (some root))
    (hsteps : place.steps = path.components) (hplace : place.bytes.Sublist path.bytes)
    (hne : place.bytes ≠ []) :
    tree.isFile place = true ∧ tree.read place = tree.read path := by
  obtain ⟨dir, names, hroot, hfound, -, rfl, hsource⟩ := mem_searched_iff.1 h
  have hresolve := hfound.resolve_eq hproper hsuits hroot hsource
  obtain ⟨hrefusal, hpathne, -⟩ := resolve_eq_ok_iff.1 hresolve
  have hpathsteps := Path.steps_foldl_join root (hfound.readable hproper) hfound.ne_nil
  have hcongr : tree.resolve true place = tree.resolve true (names.foldl Path.join root) :=
    resolve_congr (refusal?_of_sublist hplace hrefusal) hrefusal hne hpathne
      (hsteps.trans hpathsteps.symm)
  obtain ⟨content, locked, hentry⟩ := hfound.ends_at_file
  constructor
  · rw [isFile, lookup?, hcongr, hresolve]
    simp only [hentry]
  · rw [read, read, hcongr]

end Root

end FileTree

end PipelineServer
