import PipelineServer.Proofs.Disk.Change
import PipelineServer.Proofs.Disk.Sources
import PipelineServer.Proofs.Session.Manager

/-!
The output directory of a session: a name inside a directory that may itself be missing.

Deleting it and making the next one only matter at the two names, as long as the path of the
directory around them leads somewhere (`FileTree.makeDirectories_of_reaches`). If deleting has cut
that path off, nothing can be made any more (`FileTree.makeDirectories_of_blocked`).
-/

namespace PipelineServer

/-- The steps of a path start at the top or at the working directory, and never again at the top. -/
theorem Path.root_not_mem_tail (p : Path) : .root ∉ p.components.tail := by
  have hpieces : .root ∉ (splitSlash p.bytes).filterMap component? := by
    intro hmem
    obtain ⟨piece, -, hread⟩ := List.mem_filterMap.1 hmem
    unfold component? at hread
    split at hread
    · cases hread
    · split at hread <;> cases hread
  simp only [components]
  split
  · exact hpieces
  · split
    · exact hpieces
    · exact fun hmem => hpieces (List.mem_of_mem_tail hmem)

namespace FileTree

variable {tree small big : FileTree} {follow : Bool}

theorem lookup?_eq_some_iff {p : Path} {entry : Entry} :
    tree.lookup? follow p = some entry ↔
      ∃ loc, tree.resolve follow p = .ok loc ∧ tree.entry? loc = some entry := by
  unfold lookup?
  cases tree.resolve follow p with
  | error e => simp
  | ok loc => simp

/-- What is found in a smaller file system is found in a larger one. -/
theorem Within.lookup? (hwithin : Within small big) {p : Path} {entry : Entry}
    (h : small.lookup? follow p = some entry) : big.lookup? follow p = some entry := by
  obtain ⟨loc, hresolve, hentry⟩ := lookup?_eq_some_iff.1 h
  obtain ⟨hrefusal, hbytes, hwalks⟩ := resolve_eq_ok_iff.1 hresolve
  refine lookup?_eq_some_iff.2 ⟨loc, resolve_eq_ok_iff.2 ⟨hrefusal, hbytes, ?_⟩,
    hwithin.entry loc entry hentry⟩
  apply hwithin.leads hwalks
  intro hfree
  rw [hfree] at hentry
  cases hentry

theorem Within.lookup?_eq_none (hwithin : Within small big) {p : Path}
    (h : big.lookup? follow p = none) : small.lookup? follow p = none := by
  rw [Option.eq_none_iff_forall_ne_some] at h ⊢
  intro entry hentry
  exact h entry (hwithin.lookup? hentry)

theorem makeDirectories_added (tree : FileTree) (p : Path) :
    Added p.components tree (tree.makeDirectories p).1 := by
  rw [makeDirectories]
  split
  · exact .refl _ tree
  · have hadded := makeDirectoriesFrom_added p.components.reverse tree
    rwa [List.reverse_reverse] at hadded

section Join

variable {base : Path} {name : FileName} (hname : (Component.name name).Readable)
include hname

theorem leads_of_resolve_join {dest : Location}
    (h : tree.resolve follow (base.join name) = .ok dest) :
    tree.Leads follow (base.components ++ [.name name]) dest := by
  rw [← Path.steps_join base hname]
  exact (resolve_eq_ok_iff.1 h).2.2

theorem reaches_of_lookup?_join {entry : Entry}
    (h : tree.lookup? follow (base.join name) = some entry) : tree.Reaches base.components := by
  obtain ⟨loc, hresolve, -⟩ := lookup?_eq_some_iff.1 h
  obtain ⟨dir, hdir, hopen, -⟩ := reaches_of_leads_name (leads_of_resolve_join hname hresolve)
  exact ⟨dir, hdir, hopen⟩

/-- Something that is found under the name lies directly inside the directory. -/
theorem entry?_of_lookup?_join {dir : Location} {entry : Entry}
    (hdir : tree.Leads true base.components dir)
    (h : tree.lookup? false (base.join name) = some entry) :
    tree.entry? (dir ++ [name]) = some entry := by
  obtain ⟨loc, hresolve, hentry⟩ := lookup?_eq_some_iff.1 h
  obtain ⟨other, hother, -, -, hloc⟩ :=
    reaches_of_leads_name (leads_of_resolve_join hname hresolve)
  rw [Walks.unique hdir hother, ← hloc rfl]
  exact hentry

theorem makeDirectories_join (tree : FileTree) (h : refusal? (base.join name) = none) :
    tree.makeDirectories (base.join name) =
      makeDirectoriesFrom (.name name :: base.components.reverse) tree := by
  rw [makeDirectories, h, Path.components_join_name base hname, List.reverse_concat]

/-- What is made without an error can be found. -/
theorem isDirectory_of_makeDirectories (h : (tree.makeDirectories (base.join name)).2 = none) :
    (tree.makeDirectories (base.join name)).1.isDirectory (base.join name) = true := by
  cases hrefusal : refusal? (base.join name) with
  | some e =>
      rw [makeDirectories, hrefusal] at h
      cases h
  | none =>
      rw [makeDirectories_join hname tree hrefusal] at h ⊢
      obtain ⟨loc, locked, hleads, hentry⟩ := leads_of_leadsToDirectory
        (leadsToDirectory_of_made (Prod.ext rfl h) (List.cons_ne_nil _ _))
      rw [List.reverse_cons, List.reverse_reverse, ← Path.steps_join base hname] at hleads
      exact isDirectory_iff.2 ⟨loc, locked,
        resolve_eq_ok_iff.2 ⟨hrefusal, Path.join_ne_nil base hname, hleads⟩, hentry⟩

theorem reaches_of_isDirectory_join (h : tree.isDirectory (base.join name) = true) :
    tree.Reaches base.components := by
  obtain ⟨dir, locked, hresolve, hentry⟩ := isDirectory_iff.1 h
  exact reaches_of_lookup?_join hname (lookup?_eq_some_iff.2 ⟨dir, hresolve, hentry⟩)

/-- Where the directory is there, only the name can be made, and only if it is free. -/
theorem makeDirectories_of_reaches (h : tree.Reaches base.components) :
    (tree.makeDirectories (base.join name)).1 = tree ∨
      ∃ dir, tree.Leads true base.components dir ∧ tree.isOpen dir = true ∧
        tree.entry? (dir ++ [name]) = none ∧ tree.makeDirectories (base.join name) =
          (tree.put (dir ++ [name]) (.directory false), none) := by
  cases hrefusal : refusal? (base.join name) with
  | some e =>
      rw [makeDirectories, hrefusal]
      exact .inl rfl
  | none =>
      rw [makeDirectories_join hname tree hrefusal]
      have hsteps : (.name name :: base.components.reverse).reverse =
          base.components ++ [.name name] := by
        rw [List.reverse_cons, List.reverse_reverse]
      by_cases hfree : tree.Free (base.components ++ [.name name])
      · obtain ⟨loc, hleads, hnone⟩ := hfree
        obtain ⟨dir, hdir, hopen, -, hloc⟩ := reaches_of_leads_name hleads
        obtain rfl := hloc rfl
        refine .inr ⟨dir, hdir, hopen, hnone, makeDirectoriesFrom_of_made ?_⟩
        rw [hsteps]
        exact makeDirectory_eq_ok_iff.2 ⟨dir ++ [name], hleads, hnone, rfl⟩
      · left
        apply makeDirectoriesFrom_of_filled
        rw [hsteps]
        intro part hpart hne
        rcases List.prefix_concat_iff.1 hpart with rfl | hpart
        · exact hfree
        · exact not_free_of_reaches base.root_not_mem_tail h hpart hne

/-- Making another name does not show under this one. -/
theorem lookup?_of_put_join {other : FileName} {dir : Location} {entry : Entry}
    (hne : name ≠ other) (hdir : tree.Leads true base.components dir)
    (hopen : tree.isOpen dir = true) (hfree : tree.entry? (dir ++ [other]) = none)
    (h : (tree.put (dir ++ [other]) (.directory false)).lookup? false (base.join name) =
      some entry) : tree.lookup? false (base.join name) = some entry := by
  have hwithin : Within tree (tree.put (dir ++ [other]) (.directory false)) := put_within hfree _
  have hentry := entry?_of_lookup?_join hname (hwithin.leads_of_isOpen hdir hopen) h
  rw [entry?_put_of_ne (by simp [hne])] at hentry
  obtain ⟨loc, hresolve, -⟩ := lookup?_eq_some_iff.1 h
  obtain ⟨-, -, -, hlength, -⟩ := reaches_of_leads_name (leads_of_resolve_join hname hresolve)
  refine lookup?_eq_some_iff.2 ⟨dir ++ [name], resolve_eq_ok_iff.2
    ⟨(resolve_eq_ok_iff.1 hresolve).1, Path.join_ne_nil base hname, ?_⟩, hentry⟩
  rw [Path.steps_join base hname]
  exact leads_name hdir hopen hlength

/-- Where the directory is not there and no step of its path is free, nothing can be made. -/
theorem makeDirectories_of_blocked (h : ¬ tree.Reaches base.components)
    (hfilled : ∀ part, part <+: base.components → part ≠ [] → ¬ tree.Free part) :
    (tree.makeDirectories (base.join name)).1 = tree ∧
      (tree.makeDirectories (base.join name)).2 ≠ none := by
  have hsame : (tree.makeDirectories (base.join name)).1 = tree := by
    cases hrefusal : refusal? (base.join name) with
    | some e => rw [makeDirectories, hrefusal]
    | none =>
        rw [makeDirectories_join hname tree hrefusal]
        apply makeDirectoriesFrom_of_filled
        rw [List.reverse_cons, List.reverse_reverse]
        intro part hpart hne
        rcases List.prefix_concat_iff.1 hpart with rfl | hpart
        · rintro ⟨loc, hleads, -⟩
          obtain ⟨dir, hdir, hopen, -⟩ := reaches_of_leads_name hleads
          exact h ⟨dir, hdir, hopen⟩
        · exact hfilled part hpart hne
  refine ⟨hsame, ?_⟩
  intro hmade
  have hdirectory := isDirectory_of_makeDirectories hname hmade
  rw [hsame] at hdirectory
  exact h (reaches_of_isDirectory_join hname hdirectory)

end Join

end FileTree

namespace Trace

/-- The directories that were made. -/
def made (t : Trace) : List Path :=
  t.filterMap fun e =>
    match e with
    | .made directory => some directory
    | _ => none

@[simp] theorem made_append (s t : Trace) : made (s ++ t) = made s ++ made t :=
  List.filterMap_append

end Trace

namespace Manager

variable {disk purged : FileTree} {trace : Trace}

/-- Deleting leaves a path that leads nowhere alone, or prunes the tree where the path leads. -/
theorem purge_eq_ok {dir : Option Path} (h : purge disk dir = .ok (purged, trace)) :
    trace.made = [] ∧
      (purged = disk ∧ (∀ p, dir = some p → disk.pathExists p = false) ∨
        ∃ p loc, dir = some p ∧ disk.resolve false p = .ok loc ∧ purged = disk.prune loc) := by
  unfold purge at h
  split at h
  · cases h
    exact ⟨rfl, .inl ⟨rfl, nofun⟩⟩
  · rename_i p
    split at h
    · rcases disk.removeTree_cases p with ⟨loc, hresolve, hremove⟩ | ⟨e, hremove⟩ |
        ⟨loc, stop, -, -, hremove⟩
      · rw [hremove] at h
        cases h
        exact ⟨rfl, .inr ⟨p, loc, rfl, hresolve, rfl⟩⟩
      · rw [hremove] at h
        cases h
      · rw [hremove] at h
        cases h
    · rename_i hexists
      cases h
      refine ⟨rfl, .inl ⟨rfl, ?_⟩⟩
      rintro _ ⟨⟩
      exact Bool.eq_false_iff.2 hexists

/-- Deleting that fails has touched nothing, or has stopped at a locked directory below the place
where the path leads. -/
theorem purge_eq_error {dir : Option Path} {e : SessionError} {left : FileTree}
    (h : purge disk dir = .error (e, left)) :
    left = disk ∨ ∃ p loc stop, dir = some p ∧ disk.resolve false p = .ok loc ∧
      disk.firstLocked? loc = some stop ∧ left = disk.pruneUntil loc stop := by
  unfold purge at h
  split at h
  · cases h
  · rename_i p
    split at h
    · rcases disk.removeTree_cases p with ⟨loc, -, hremove⟩ | ⟨e, hremove⟩ |
        ⟨loc, stop, hresolve, hlocked, hremove⟩
      · rw [hremove] at h
        cases h
      · rw [hremove] at h
        cases h
        exact .inl rfl
      · rw [hremove] at h
        cases h
        exact .inr ⟨p, loc, stop, rfl, hresolve, hlocked, rfl⟩
    · cases h

theorem purge_within {dir : Option Path} (h : purge disk dir = .ok (purged, trace)) :
    purged.Within disk := by
  rcases (purge_eq_ok h).2 with ⟨rfl, -⟩ | ⟨p, loc, -, -, rfl⟩
  · exact .refl purged
  · exact FileTree.prune_within disk loc

/-- What is made is noted, unless it could not be made. -/
theorem makeOutput_eq (disk : FileTree) (dir : Path) :
    (makeOutput disk (some dir)).1 = (disk.makeDirectories dir).1 ∧
      (makeOutput disk (some dir)).2.made =
        if (disk.makeDirectories dir).2 = none then [dir] else [] := by
  rw [makeOutput]
  rcases disk.makeDirectories dir with ⟨later, none | e⟩
  · exact ⟨rfl, rfl⟩
  · exact ⟨rfl, rfl⟩

section Join

variable {base : Path} {name : FileName} (hname : (Component.name name).Readable)
include hname

/-- After deleting, a name that led to a directory or to nothing leads to nothing. -/
theorem lookup?_of_purge (h : purge disk (some (base.join name)) = .ok (purged, trace))
    (hkept : disk.lookup? false (base.join name) = none ∨
      disk.isDirectory (base.join name) = true) :
    purged.lookup? false (base.join name) = none := by
  rcases (purge_eq_ok h).2 with ⟨rfl, hmissing⟩ | ⟨p, loc, hp, hresolve, rfl⟩
  · rcases hkept with hnone | hdirectory
    · exact hnone
    · obtain ⟨dir, locked, hresolve, hentry⟩ := FileTree.isDirectory_iff.1 hdirectory
      have hexists : purged.pathExists (base.join name) = true := by
        rw [FileTree.pathExists, FileTree.lookup?_eq_some_iff.2 ⟨dir, hresolve, hentry⟩]
        rfl
      rw [hmissing _ rfl] at hexists
      cases hexists
  · obtain rfl := Option.some.inj hp
    obtain ⟨dir, hdir, hopen, -, hloc⟩ :=
      FileTree.reaches_of_leads_name (FileTree.leads_of_resolve_join hname hresolve)
    obtain rfl := hloc rfl
    rw [Option.eq_none_iff_forall_ne_some]
    intro entry hfound
    -- the directory around the name is still where it was, and the name is gone from it
    obtain ⟨place, hplace, hentry⟩ := FileTree.lookup?_eq_some_iff.1 hfound
    obtain ⟨other, hother, hopen, -, hsame⟩ :=
      FileTree.reaches_of_leads_name (FileTree.leads_of_resolve_join hname hplace)
    have hdirs : dir = other :=
      FileTree.Walks.unique hdir ((FileTree.prune_within disk _).leads_of_isOpen hother hopen)
    rw [hsame rfl, ← hdirs,
      FileTree.entry?_prune_below (List.prefix_refl _) (List.concat_ne_nil _ _)] at hentry
    cases hentry

/-- Deleting may cut off the path of the directory, but then it frees no step of it. -/
theorem not_free_of_purge (h : purge disk (some (base.join name)) = .ok (purged, trace))
    (hreaches : disk.Reaches base.components) (hblocked : ¬ purged.Reaches base.components)
    (happart : ∀ dir, disk.Leads true base.components dir → ∀ part step,
      part ++ [.name step] <+: base.components →
        ¬ disk.Leads false (part ++ [.name step]) (dir ++ [name]))
    {part : List Component} (hpart : part <+: base.components) (hne : part ≠ []) :
    ¬ purged.Free part := by
  rcases (purge_eq_ok h).2 with ⟨rfl, -⟩ | ⟨p, loc, hp, hresolve, rfl⟩
  · exact absurd hreaches hblocked
  · obtain rfl := Option.some.inj hp
    obtain ⟨dir, hdir, -, -, hloc⟩ :=
      FileTree.reaches_of_leads_name (FileTree.leads_of_resolve_join hname hresolve)
    obtain rfl := hloc rfl
    exact FileTree.not_free_prune base.root_not_mem_tail hreaches (List.concat_ne_nil _ _)
      (happart dir hdir) hpart hne

end Join

end Manager

end PipelineServer
