import Mathlib.Data.List.DropRight
import Mathlib.Data.List.Lex
import PipelineServer.Disk.Change
import PipelineServer.Proofs.Disk.Sources

/-!
The search for source files is exact.

A source file of a workspace is reached from the root along open directories, none of them a link,
none with a skipped name and none with too long a path, in at most eight steps. The search lists the
paths of all these files and no others, in the order of their components.
-/

namespace PipelineServer

namespace Component

/-- The place of a step in the order of steps. -/
def rank : Component → Nat
  | .root => 0
  | .here => 1
  | .up => 2
  | .name _ => 3

/-- The order of steps. Names are ordered by their bytes, behind all other steps. -/
def Before : Component → Component → Prop
  | .name a, .name b => a < b
  | a, b => a.rank < b.rank

end Component

namespace Path

/-- The order of paths, by their components. -/
def Before (p q : Path) : Prop := List.Lex Component.Before p.components q.components

/-- Below one directory, the first names that differ decide. -/
theorem before_of_names {p q : Path} {steps rest rest' : List Component} {name name' : FileName}
    (hp : p.components = steps ++ .name name :: rest)
    (hq : q.components = steps ++ .name name' :: rest') (h : name < name') : p.Before q := by
  have hstep : Component.Before (.name name) (.name name') := h
  rw [Before, hp, hq]
  exact List.Lex.append_left Component.Before (List.Lex.rel hstep) steps

/-- An extension stands behind the last dot of a name, and something stands in front of it. -/
theorem extensionOf?_eq_some_iff {name : FileName} {ext : List UInt8} :
    extensionOf? name = some ext ↔ dot ∉ ext ∧ ∃ stem, stem ≠ [] ∧ name = stem ++ dot :: ext := by
  have hcut : name = (name.reverse.dropWhile (· != dot)).reverse ++
      (name.reverse.takeWhile (· != dot)).reverse :=
    (List.rdropWhile_append_rtakeWhile (p := (· != dot)) (l := name)).symm
  simp only [extensionOf?]
  constructor
  · intro h
    split at h
    · rename_i hshort
      obtain rfl := Option.some.inj h
      refine ⟨?_, ?_⟩
      · intro hdot
        simpa using List.mem_rtakeWhile_imp (l := name) hdot
      · have hlength := congrArg List.length hcut
        rw [List.length_append, List.length_reverse, List.length_reverse] at hlength
        cases hrest : name.reverse.dropWhile (· != dot) with
        | nil =>
            rw [hrest, List.length_nil] at hlength
            omega
        | cons b stem =>
            have hb : b = dot := by
              have hhead := List.head?_dropWhile_not (· != dot) name.reverse
              rw [hrest] at hhead
              simpa using hhead
            rw [hrest, List.length_cons] at hlength
            refine ⟨stem.reverse, ?_, ?_⟩
            · intro hnil
              rw [List.reverse_eq_nil_iff.1 hnil, List.length_nil] at hlength
              omega
            · rw [hrest, hb, List.reverse_cons, List.append_assoc] at hcut
              exact hcut
    · cases h
  · rintro ⟨hdot, stem, hstem, rfl⟩
    have htail : (stem ++ dot :: ext).reverse.takeWhile (· != dot) = ext.reverse := by
      rw [List.reverse_append, List.reverse_cons, List.append_assoc,
        List.takeWhile_append_of_pos fun b hb => ?_]
      · simp
      · rw [bne_iff_ne]
        rintro rfl
        exact hdot (List.mem_reverse.1 hb)
    have hpos : 0 < stem.length := List.length_pos_iff.2 hstem
    rw [htail, List.length_reverse, List.reverse_reverse, if_pos]
    rw [List.length_append, List.length_cons]
    omega

/-- A name is that of a source if it ends in a dot and one of three words, with something in front
of the dot. -/
def NamesSource (name : FileName) : Prop :=
  ∃ stem, stem ≠ [] ∧ ∃ ext ∈ ["nf", "groovy", "config"],
    name = stem ++ dot :: Text.encodeUtf8 ext

theorem isSource_iff_of_fileName? {p : Path} {name : FileName} (h : p.fileName? = some name) :
    p.isSource = true ↔ NamesSource name := by
  have hplain : ∀ ext ∈ sourceExtensions, dot ∉ Text.encodeUtf8 ext := by decide +kernel
  rw [isSource, extension?, h, Option.bind_some]
  constructor
  · intro hsource
    split at hsource
    · rename_i bytes hbytes
      obtain ⟨ext, hext, rfl⟩ := List.mem_map.1 (List.contains_iff_mem.1 hsource)
      obtain ⟨-, stem, hstem, hname⟩ := extensionOf?_eq_some_iff.1 hbytes
      exact ⟨stem, hstem, ext, hext, hname⟩
    · cases hsource
  · rintro ⟨stem, hstem, ext, hext, hname⟩
    have hof := extensionOf?_eq_some_iff.2 ⟨hplain ext hext, stem, hstem, hname⟩
    rw [hof]
    exact List.contains_iff_mem.2 (List.mem_map_of_mem hext)

theorem fileName?_foldl_join (dir : Path) {names : List FileName}
    (hnames : ∀ name ∈ names, (Component.name name).Readable) {name : FileName}
    (hlast : names.getLast? = some name) : (names.foldl join dir).fileName? = some name := by
  obtain ⟨above, rfl⟩ := List.getLast?_eq_some_iff.1 hlast
  rw [List.foldl_append]
  exact fileName?_join _ (hnames name (by simp))

end Path

namespace FileTree

variable {tree : FileTree}

theorem lt_of_compare {a b : FileName} (h : compare a b = .lt) : a < b := by
  induction a generalizing b with
  | nil =>
      cases b with
      | nil => cases h
      | cons y b => exact List.nil_lt_cons y b
  | cons x a ih =>
      cases b with
      | nil => cases h
      | cons y b =>
          rw [List.compare_cons_cons] at h
          apply List.cons_lt_cons_iff.2
          rcases Ordering.then_eq_lt.1 h with hfirst | ⟨hfirst, hrest⟩
          · exact .inl (Std.compare_eq_lt.1 hfirst)
          · exact .inr ⟨Std.LawfulEqCmp.eq_of_compare hfirst, ih hrest⟩

theorem compare_below (dir : Location) (a b : FileName) :
    compare (dir ++ [a]) (dir ++ [b]) = compare a b := by
  induction dir with
  | nil =>
      rw [List.nil_append, List.nil_append, List.compare_cons_cons]
      exact Ordering.then_eq
  | cons name dir ih =>
      have hname : compare name name = .eq := Std.ReflCmp.compare_self
      rw [List.cons_append, List.cons_append, List.compare_cons_cons, hname, ih]
      rfl

/-- A directory lists its names in order. -/
theorem children_ordered (tree : FileTree) (dir : Location) :
    (tree.children dir).Pairwise fun a b => a.1 < b.1 := by
  apply List.pairwise_filterMap.2
  refine tree.entries.ordered.imp ?_
  rintro ⟨loc, entry⟩ ⟨loc', entry'⟩ hlt child hchild child' hchild'
  obtain ⟨name, hname, rfl⟩ := Option.map_eq_some_iff.1 hchild
  obtain ⟨name', hname', rfl⟩ := Option.map_eq_some_iff.1 hchild'
  obtain rfl : loc = dir ++ [name] := childName?_eq_some_iff.1 hname
  obtain rfl : loc' = dir ++ [name'] := childName?_eq_some_iff.1 hname'
  exact lt_of_compare ((compare_below dir name name').symm.trans hlt)

/-- The source files that one name in a directory leads to. -/
def childSources (tree : FileTree) (depth : Nat) (dir : Location) (shown : Path) :
    FileName × Entry → List Path
  | (name, .file _ _) => if (shown.join name).isSource then [shown.join name] else []
  | (name, .directory _) =>
      if (skippedNames.map Text.encodeUtf8).contains name then []
      else sourcesBelow tree depth (dir ++ [name]) (shown.join name)
  | (_, .link _) => []

theorem sourcesBelow_succ (tree : FileTree) (depth : Nat) (dir : Location) (shown : Path) :
    tree.sourcesBelow (depth + 1) dir shown =
      if tree.isOpen dir && (refusal? shown).isNone
      then (tree.children dir).flatMap (tree.childSources depth dir shown) else [] := by
  rw [sourcesBelow]
  refine if_congr Iff.rfl (congrArg (List.flatMap · (tree.children dir)) (funext ?_)) rfl
  rintro ⟨name, entry⟩
  cases entry <;> rfl

section Order

variable (hproper : tree.Proper) {depth : Nat} {dir : Location} {shown path : Path}
include hproper

theorem components_of_mem_sourcesBelow (h : path ∈ tree.sourcesBelow depth dir shown) :
    ∃ names : List FileName, path.components = shown.components ++ names.map .name := by
  obtain ⟨names, hfound, -, rfl, -⟩ := mem_sourcesBelow_iff.1 h
  exact ⟨names, hfound.components_eq hproper shown⟩

/-- What a name leads to starts with that name. -/
theorem components_of_mem_childSources {name : FileName} {entry : Entry}
    (hchild : (name, entry) ∈ tree.children dir)
    (h : path ∈ tree.childSources depth dir shown (name, entry)) :
    ∃ names : List FileName,
      path.components = shown.components ++ .name name :: names.map .name := by
  have hname := (hproper.name_of_entry (mem_children_iff.1 hchild)).1
  have hjoin := Path.components_join_name shown hname
  cases entry with
  | file content locked =>
      obtain rfl : path = shown.join name := by
        simpa using (List.mem_ite_nil_right.1 h).2
      exact ⟨[], hjoin⟩
  | directory locked =>
      obtain ⟨-, hbelow⟩ := List.mem_ite_nil_left.1 h
      obtain ⟨names, hnames⟩ := components_of_mem_sourcesBelow hproper hbelow
      refine ⟨names, ?_⟩
      rw [hnames, hjoin, List.append_assoc]
      rfl
  | link target => cases h

/-- The paths come in the order of their components. -/
theorem sourcesBelow_ordered (depth : Nat) (dir : Location) (shown : Path) :
    (tree.sourcesBelow depth dir shown).Pairwise Path.Before := by
  induction depth generalizing dir shown with
  | zero => exact List.Pairwise.nil
  | succ depth ih =>
      rw [sourcesBelow_succ]
      split
      · apply List.pairwise_flatMap.2
        constructor
        · rintro ⟨name, entry⟩ hchild
          cases entry with
          | file content locked =>
              rw [childSources]
              split <;> simp
          | directory locked =>
              rw [childSources]
              split
              · exact List.Pairwise.nil
              · exact ih _ _
          | link target => exact List.Pairwise.nil
        · refine (children_ordered tree dir).imp_of_mem ?_
          intro a b ha hb hlt p hp q hq
          obtain ⟨names, hcomponents⟩ := components_of_mem_childSources hproper ha hp
          obtain ⟨names', hcomponents'⟩ := components_of_mem_childSources hproper hb hq
          exact Path.before_of_names hcomponents hcomponents' hlt
      · exact List.Pairwise.nil

end Order

/-- Every name but the last one is that of an open directory, and is not one of those skipped. -/
def Passes (tree : FileTree) (dir : Location) (names : List FileName) : Prop :=
  ∀ above name below, names = above ++ name :: below → below ≠ [] →
    tree.entry? (dir ++ above ++ [name]) = some (.directory false) ∧
      name ∉ [".git", "work", ".nextflow", "node_modules", "target"].map Text.encodeUtf8

/-- The names on the way from an open directory to a source file of the workspace there. The path
of the directory that holds the file, `root` followed by the names above it, is not too long for
that directory to be listed. -/
structure LeadsToSource (tree : FileTree) (root : Path) (dir : Location) (names : List FileName) :
    Prop where
  opened : tree.entry? dir = some (.directory false)
  length : 1 ≤ names.length ∧ names.length ≤ 8
  passes : Passes tree dir names
  listed : (names.dropLast.foldl Path.join root).bytes.length ≤ 4095
  file : ∃ content locked, tree.entry? (dir ++ names) = some (.file content locked)
  named : ∃ name, names.getLast? = some name ∧ Path.NamesSource name

theorem Found.passes {depth : Nat} {dir : Location} {names : List FileName}
    (h : Found tree depth dir names) : Passes tree dir names := by
  induction h with
  | file hdir hentry =>
      intro above name below hnames hbelow
      cases above with
      | nil => exact absurd (List.cons.inj hnames).2.symm hbelow
      | cons _ above => simp at hnames
  | @directory depth dir name locked names hdir hentry hkept h ih =>
      intro above name' below hnames hbelow
      cases above with
      | nil =>
          obtain ⟨rfl, rfl⟩ := List.cons.inj hnames
          rw [List.append_nil]
          exact ⟨isOpen_iff.1 h.isOpen, hkept⟩
      | cons first above =>
          obtain ⟨rfl, hrest⟩ := List.cons.inj hnames
          have hpassed := ih above name' below hrest hbelow
          rwa [List.append_assoc dir] at hpassed

theorem Passes.found {names : List FileName} {depth : Nat} {dir : Location}
    (h : Passes tree dir names) (hdir : tree.isOpen dir = true) (hne : names ≠ [])
    (hdepth : names.length ≤ depth)
    (hfile : ∃ content locked, tree.entry? (dir ++ names) = some (.file content locked)) :
    Found tree depth dir names := by
  induction names generalizing depth dir with
  | nil => exact absurd rfl hne
  | cons name rest ih =>
      obtain ⟨depth, rfl⟩ : ∃ n, depth = n + 1 := Nat.exists_eq_add_one_of_ne_zero (by
        rw [List.length_cons] at hdepth
        omega)
      cases rest with
      | nil =>
          obtain ⟨content, locked, hentry⟩ := hfile
          exact .file hdir hentry
      | cons next rest =>
          obtain ⟨hentry, hkept⟩ := h [] name (next :: rest) rfl (List.cons_ne_nil _ _)
          rw [List.append_nil] at hentry
          refine .directory hdir hentry hkept (ih ?_ (isOpen_iff.2 hentry) (List.cons_ne_nil _ _)
            (Nat.le_of_succ_le_succ hdepth) ?_)
          · intro above name' below hnames hbelow
            have hpassed := h (name :: above) name' below (congrArg (name :: ·) hnames) hbelow
            rwa [← List.singleton_append, ← List.append_assoc] at hpassed
          · rwa [List.append_assoc]

/-- Of all paths on the way, that of the last directory is the longest. -/
theorem Found.listed_iff {depth : Nat} {dir : Location} {names : List FileName}
    (h : Found tree depth dir names) (hproper : tree.Proper) {root : Path}
    (hroot : refusal? root = none) :
    Listed root names ↔ (names.dropLast.foldl Path.join root).bytes.length ≤ pathLimit := by
  have hreadable := h.readable hproper
  obtain rfl | ⟨front, last, rfl⟩ := List.eq_nil_or_concat' names
  · exact absurd rfl h.ne_nil
  rw [List.dropLast_concat]
  constructor
  · intro hlisted
    exact (refusal?_eq_none_iff.1 (hlisted front last [] rfl)).2
  · intro hshort
    have hzero := h.zero_not_mem hproper (refusal?_eq_none_iff.1 hroot).1
    rw [List.foldl_append] at hzero
    have hsublist := Path.bytes_sublist_join (front.foldl Path.join root)
      (hreadable last (List.mem_append_right front List.mem_cons_self))
    have hfront : refusal? (front.foldl Path.join root) = none :=
      refusal?_eq_none_iff.2 ⟨fun hmem => hzero (hsublist.subset hmem), hshort⟩
    intro above name below hnames
    rcases List.eq_nil_or_concat' below with rfl | ⟨below, _, rfl⟩
    · obtain ⟨rfl, -⟩ := List.append_inj' hnames rfl
      exact hfront
    · rw [← List.cons_append, ← List.append_assoc] at hnames
      obtain ⟨rfl, -⟩ := List.append_inj' hnames rfl
      refine listed_of_refusal? ?_ hfront above name below rfl
      exact fun name hname => hreadable name (List.mem_append_left _ hname)

/-- The search finds its way to exactly the source files of the workspace. -/
theorem leadsToSource_iff (hproper : tree.Proper) {dir : Location} {names : List FileName}
    {root : Path} (hroot : refusal? root = none) :
    LeadsToSource tree root dir names ↔
      Found tree searchDepth dir names ∧ Listed root names ∧
        (names.foldl Path.join root).isSource = true := by
  have hsource : ∀ {name}, Found tree searchDepth dir names → names.getLast? = some name →
      ((names.foldl Path.join root).isSource = true ↔ Path.NamesSource name) := fun hfound hlast =>
    Path.isSource_iff_of_fileName?
      (Path.fileName?_foldl_join root (hfound.readable hproper) hlast)
  constructor
  · intro h
    obtain ⟨name, hlast, hname⟩ := h.named
    have hfound : Found tree searchDepth dir names :=
      h.passes.found (isOpen_iff.2 h.opened) (List.length_pos_iff.1 h.length.1) h.length.2 h.file
    exact ⟨hfound, (hfound.listed_iff hproper hroot).2 h.listed, (hsource hfound hlast).2 hname⟩
  · rintro ⟨hfound, hlisted, hpath⟩
    have hlast := List.getLast?_eq_some_getLast hfound.ne_nil
    exact {
      opened := isOpen_iff.1 hfound.isOpen
      length := ⟨List.length_pos_iff.2 hfound.ne_nil, hfound.length_le⟩
      passes := hfound.passes
      listed := (hfound.listed_iff hproper hroot).1 hlisted
      file := hfound.ends_at_file
      named := ⟨_, hlast, (hsource hfound hlast).1 hpath⟩ }

/-- For a root that is a directory or a link to one, the search gives, in the order of components
and each once, the root followed by the names on the way to each source file below it. -/
theorem sourceFiles_exact (tree : FileTree) (root : Path) (hproper : tree.Proper)
    (hroot : tree.isDirectory root = true) :
    (tree.sourceFiles root).Pairwise Path.Before ∧
      ∃ dir, tree.resolve true root = .ok dir ∧ ∀ path, path ∈ tree.sourceFiles root ↔
        ∃ names, LeadsToSource tree root dir names ∧ path = names.foldl Path.join root ∧
          path.components = root.components ++ names.map .name := by
  obtain ⟨dir, locked, hdir, hentry⟩ := isDirectory_iff.1 hroot
  have hrefusal := (resolve_eq_ok_iff.1 hdir).1
  rw [sourceFiles_of_resolve hdir hentry]
  refine ⟨sourcesBelow_ordered hproper searchDepth dir root, dir, hdir, fun path => ?_⟩
  rw [mem_sourcesBelow_iff]
  constructor
  · rintro ⟨names, hfound, hlisted, rfl, hsource⟩
    exact ⟨names, (leadsToSource_iff hproper hrefusal).2 ⟨hfound, hlisted, hsource⟩, rfl,
      hfound.components_eq hproper root⟩
  · rintro ⟨names, hleads, rfl, -⟩
    obtain ⟨hfound, hlisted, hsource⟩ := (leadsToSource_iff hproper hrefusal).1 hleads
    exact ⟨names, hfound, hlisted, rfl, hsource⟩

namespace SearchWitness

def name (text : String) : FileName := Text.encodeUtf8 text

/-- A workspace with two sources, and with others that are skipped, locked away or linked. -/
def disk : FileTree :=
  [(["ws"], .directory false), (["ws", "main.nf"], .file [] true),
    (["ws", "lib"], .directory false), (["ws", "lib", "a.groovy"], .file [] false),
    (["ws", "work"], .directory false), (["ws", "work", "b.nf"], .file [] false),
    (["ws", "kept"], .directory true), (["ws", "kept", "c.nf"], .file [] false),
    (["ws", "alias.nf"], .link (.ofText "main.nf")), (["link"], .link (.ofText "ws"))].foldl
      (fun tree (e : List String × Entry) => tree.put (e.1.map name) e.2) .bare

def root : Path := .ofText "/link"

/-- The sources are found through the link, a locked file among them. -/
theorem sourceFiles_exact_linked :
    disk.Proper ∧ disk.isDirectory root = true ∧
      disk.sourceFiles root = [.ofText "/link/lib/a.groovy", .ofText "/link/main.nf"] ∧
      Path.Before (.ofText "/link/lib/a.groovy") (.ofText "/link/main.nf") ∧
      ∃ names, LeadsToSource disk root [name "ws"] names ∧
        .ofText "/link/main.nf" = names.foldl Path.join root := by
  have hproper : disk.Proper := by decide +kernel
  have hroot : disk.isDirectory root = true := by decide +kernel
  have hfiles : disk.sourceFiles root =
      [.ofText "/link/lib/a.groovy", .ofText "/link/main.nf"] := by decide +kernel
  have hplace : disk.resolve true root = .ok [name "ws"] := by decide +kernel
  obtain ⟨hordered, dir, hdir, hexact⟩ := sourceFiles_exact disk root hproper hroot
  obtain rfl := Except.ok.inj (hdir.symm.trans hplace)
  rw [hfiles] at hordered hexact
  obtain ⟨names, hleads, hpath, -⟩ := (hexact (.ofText "/link/main.nf")).1 (by simp)
  exact ⟨hproper, hroot, hfiles, List.rel_of_pairwise_cons hordered List.mem_cons_self, names,
    hleads, hpath⟩

end SearchWitness

end FileTree

end PipelineServer
