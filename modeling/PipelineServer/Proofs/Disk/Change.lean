import PipelineServer.Disk.Change
import PipelineServer.Proofs.Disk.Lookup
import PipelineServer.Proofs.SortedMap

/-!
What making and deleting directories does to a file system, and what it leaves alone.

Deleting takes entries away and making adds open directories where nothing was. A lookup that finds
something in the smaller of two file systems finds the same in the larger one (`Walks.extend`), so
both can be followed entry by entry. Making a directory with those above it adds entries along its
own path only (`makeDirectoriesFrom_added`), and none at all if no step of the path is free
(`makeDirectoriesFrom_of_filled`).
-/

namespace PipelineServer.FileTree

variable {tree small big : FileTree} {follow : Bool}

section Entries

variable {loc dir : Location}

theorem ne_nil_of_free (h : tree.entry? loc = none) : loc ≠ [] := by
  rintro rfl
  cases h

theorem entry?_put_self (tree : FileTree) (hdir : dir ≠ []) (entry : Entry) :
    entry? (tree.put dir entry) dir = some entry := by
  rw [ entry?, if_neg hdir]
  exact SortedMap.get?_insert_self _ _ _

theorem entry?_put_of_ne (h : loc ≠ dir) (entry : Entry) :
    entry? (tree.put dir entry) loc = tree.entry? loc := by
  rw [ entry?, entry?]
  split
  · rfl
  · exact SortedMap.get?_insert_of_ne _ _ h

theorem entry?_prune_below (h : dir <+: loc) (hloc : loc ≠ []) :
    entry? (tree.prune dir) loc = none := by
  rw [ entry?, if_neg hloc, prune, SortedMap.get?_filter, List.isPrefixOf_iff_prefix.2 h]
  cases tree.entries.get? loc <;> rfl

theorem entry?_filter {keep : Location → Bool} (h : keep loc = true) :
    entry? { tree with entries := tree.entries.filter fun other _ => keep other } loc =
      tree.entry? loc := by
  rw [ entry?, entry?]
  split
  · rfl
  · rw [SortedMap.get?_filter, h]
    cases tree.entries.get? loc <;> rfl

theorem entry?_prune_elsewhere (h : ¬ dir <+: loc) :
    entry? (tree.prune dir) loc = tree.entry? loc := by
  apply entry?_filter
  rw [← List.isPrefixOf_iff_prefix, Bool.not_eq_true] at h
  simp [h]

/-- A deletion that stops half way takes nothing from outside either. -/
theorem entry?_pruneUntil_elsewhere (h : ¬ dir <+: loc) (stop : Location) :
    entry? (tree.pruneUntil dir stop) loc = tree.entry? loc := by
  apply entry?_filter
  rw [← List.isPrefixOf_iff_prefix, Bool.not_eq_true] at h
  simp [h]

end Entries

/-- All that `small` has, `big` has at the same place. -/
structure Within (small big : FileTree) : Prop where
  working : small.working = big.working
  entry : ∀ loc entry, small.entry? loc = some entry → big.entry? loc = some entry

theorem Within.refl (tree : FileTree) : Within tree tree := ⟨rfl, fun _ _ h => h⟩

theorem Within.isOpen (hwithin : Within small big) {loc : Location} (h : small.isOpen loc = true) :
    big.isOpen loc = true :=
  isOpen_iff.2 (hwithin.entry _ _ (isOpen_iff.1 h))

theorem prune_within (tree : FileTree) (dir : Location) : Within (tree.prune dir) tree := by
  refine ⟨rfl, ?_⟩
  intro loc entry h
  by_cases hbelow : dir <+: loc
  · by_cases hloc : loc = []
    · rw [hloc] at h ⊢
      exact h
    · rw [ entry?_prune_below hbelow hloc] at h
      cases h
  · rwa [entry?_prune_elsewhere hbelow] at h

theorem put_within {loc : Location} (hfree : tree.entry? loc = none) (entry : Entry) :
    Within tree (tree.put loc entry) := by
  refine ⟨rfl, ?_⟩
  intro other found hfound
  rwa [entry?_put_of_ne]
  rintro rfl
  rw [hfree] at hfound
  cases hfound

namespace Walks

variable {n : Nat} {loc dest other : Location} {steps rest : List Component}

theorem unique (h : Walks tree follow n loc steps dest) (h' : Walks tree follow n loc steps other) :
    dest = other :=
  Except.ok.inj ((resolveFrom_eq_ok_iff.2 h).symm.trans (resolveFrom_eq_ok_iff.2 h'))

/-- A walk leads to the same place in a larger file system, where a free place may have become a
directory. -/
theorem extend (hwithin : Within small big) (h : Walks small follow n loc steps dest)
    (hdest : small.entry? dest = none → ∃ locked, big.entry? dest = some (.directory locked)) :
    Walks big follow n loc steps dest := by
  induction h with
  | done => exact .done
  | root h ih => exact .root (ih hdest)
  | here hloc h ih => exact .here (hwithin.isOpen hloc) (ih hdest)
  | up hloc h ih => exact .up (hwithin.isOpen hloc) (ih hdest)
  | missing hloc hname hentry =>
      obtain ⟨locked, hfilled⟩ := hdest hentry
      exact .enter (hwithin.isOpen hloc) hname hfilled nofun .done
  | stop hloc hname hentry hfollow =>
      exact .stop (hwithin.isOpen hloc) hname (hwithin.entry _ _ hentry) hfollow
  | link hloc hname hentry hgo h ih =>
      exact .link (hwithin.isOpen hloc) hname (hwithin.entry _ _ hentry) hgo (ih hdest)
  | enter hloc hname hentry hlink h ih =>
      exact .enter (hwithin.isOpen hloc) hname (hwithin.entry _ _ hentry) hlink (ih hdest)

/-- Where no link is at the end, it does not matter whether one would be followed. -/
theorem followed (h : Walks tree false n loc steps dest)
    (hdest : ∀ target, tree.entry? dest ≠ some (.link target)) :
    Walks tree true n loc steps dest := by
  induction h with
  | done => exact .done
  | root h ih => exact .root (ih hdest)
  | here hloc h ih => exact .here hloc (ih hdest)
  | up hloc h ih => exact .up hloc (ih hdest)
  | missing hloc hname hentry => exact .missing hloc hname hentry
  | stop hloc hname hentry hfollow => exact absurd hentry (hdest _)
  | link hloc hname hentry hgo h ih => exact .link hloc hname hentry (fun _ => rfl) (ih hdest)
  | enter hloc hname hentry hlink h ih => exact .enter hloc hname hentry hlink (ih hdest)

/-- A walk can be interrupted between any two of its steps. -/
theorem split (h : Walks tree follow n loc (steps ++ rest) dest) (hrest : rest ≠ []) :
    ∃ mid m, Walks tree true n loc steps mid ∧ Walks tree follow m mid rest dest := by
  generalize hall : steps ++ rest = all at h
  induction h generalizing steps with
  | done => exact absurd (List.append_eq_nil_iff.1 hall).2 hrest
  | root h ih =>
      cases steps with
      | nil =>
          subst hall
          exact ⟨_, _, .done, .root h⟩
      | cons step steps =>
          obtain ⟨rfl, htail⟩ := List.cons.inj hall
          obtain ⟨mid, m, hfirst, hlast⟩ := ih htail
          exact ⟨mid, m, .root hfirst, hlast⟩
  | here hloc h ih =>
      cases steps with
      | nil =>
          subst hall
          exact ⟨_, _, .done, .here hloc h⟩
      | cons step steps =>
          obtain ⟨rfl, htail⟩ := List.cons.inj hall
          obtain ⟨mid, m, hfirst, hlast⟩ := ih htail
          exact ⟨mid, m, .here hloc hfirst, hlast⟩
  | up hloc h ih =>
      cases steps with
      | nil =>
          subst hall
          exact ⟨_, _, .done, .up hloc h⟩
      | cons step steps =>
          obtain ⟨rfl, htail⟩ := List.cons.inj hall
          obtain ⟨mid, m, hfirst, hlast⟩ := ih htail
          exact ⟨mid, m, .up hloc hfirst, hlast⟩
  | @missing n _ _ hloc hname hentry =>
      cases steps with
      | nil =>
          subst hall
          exact ⟨_, n, .done, .missing hloc hname hentry⟩
      | cons step steps => exact absurd (List.append_eq_nil_iff.1 (List.cons.inj hall).2).2 hrest
  | @stop n _ _ _ hloc hname hentry hfollow =>
      cases steps with
      | nil =>
          subst hall
          exact ⟨_, n, .done, .stop hloc hname hentry hfollow⟩
      | cons step steps => exact absurd (List.append_eq_nil_iff.1 (List.cons.inj hall).2).2 hrest
  | link hloc hname hentry hgo h ih =>
      cases steps with
      | nil =>
          subst hall
          exact ⟨_, _, .done, .link hloc hname hentry hgo h⟩
      | cons step steps =>
          obtain ⟨rfl, rfl⟩ := List.cons.inj hall
          obtain ⟨mid, m, hfirst, hlast⟩ := ih (List.append_assoc _ _ _)
          exact ⟨mid, m, .link hloc hname hentry (fun _ => rfl) hfirst, hlast⟩
  | enter hloc hname hentry hlink h ih =>
      cases steps with
      | nil =>
          subst hall
          exact ⟨_, _, .done, .enter hloc hname hentry hlink h⟩
      | cons step steps =>
          obtain ⟨rfl, htail⟩ := List.cons.inj hall
          obtain ⟨mid, m, hfirst, hlast⟩ := ih htail
          exact ⟨mid, m, .enter hloc hname hentry hlink hfirst, hlast⟩

/-- Only an open directory can be left, other than for the top. -/
theorem isOpen_of_cons {step : Component} (h : Walks tree follow n loc (step :: rest) dest)
    (hroot : step ≠ .root) : tree.isOpen loc = true := by
  cases h with
  | root h => exact absurd rfl hroot
  | here hloc h => exact hloc
  | up hloc h => exact hloc
  | missing hloc hname hentry => exact hloc
  | stop hloc hname hentry hfollow => exact hloc
  | link hloc hname hentry hgo h => exact hloc
  | enter hloc hname hentry hlink h => exact hloc

/-- A name, whether or not something has it. -/
theorem of_name {name : FileName} (hloc : tree.isOpen loc = true)
    (hname : name.length ≤ nameLimit) : Walks tree false n loc [.name name] (loc ++ [name]) := by
  cases hentry : tree.entry? (loc ++ [name]) with
  | none => exact .missing hloc hname hentry
  | some entry =>
      cases entry with
      | link target => exact .stop hloc hname hentry rfl
      | file content locked => exact .enter hloc hname hentry nofun .done
      | directory locked => exact .enter hloc hname hentry nofun .done

end Walks

/-- From the working directory, the steps lead to a location. -/
abbrev Leads (tree : FileTree) (follow : Bool) (steps : List Component) (dest : Location) : Prop :=
  Walks tree follow linkLimit tree.working steps dest

/-- The steps lead to an open directory. -/
def Reaches (tree : FileTree) (steps : List Component) : Prop :=
  ∃ dir, tree.Leads true steps dir ∧ tree.isOpen dir = true

/-- The steps lead to a place where nothing is. -/
def Free (tree : FileTree) (steps : List Component) : Prop :=
  ∃ loc, tree.Leads false steps loc ∧ tree.entry? loc = none

section Leads

variable {steps part : List Component} {dir dest loc : Location} {name : FileName}

theorem Within.leads (hwithin : Within small big) (h : small.Leads follow steps dest)
    (hdest : small.entry? dest = none → ∃ locked, big.entry? dest = some (.directory locked)) :
    big.Leads follow steps dest := by
  have hwalks := Walks.extend hwithin h hdest
  rwa [hwithin.working] at hwalks

theorem Within.leads_of_isOpen (hwithin : Within small big) (h : small.Leads true steps dir)
    (hdir : small.isOpen dir = true) : big.Leads true steps dir := by
  apply hwithin.leads h
  intro hnone
  rw [isOpen_iff, hnone] at hdir
  cases hdir

/-- The steps that led to a free place lead to the directory that is made there. -/
theorem leads_put (h : tree.Leads false steps loc) (hfree : tree.entry? loc = none) :
    (tree.put loc (.directory false)).Leads false steps loc :=
  (put_within hfree _).leads h fun _ => ⟨false, entry?_put_self tree (ne_nil_of_free hfree) _⟩

theorem leads_name (h : tree.Leads true steps dir) (hdir : tree.isOpen dir = true)
    (hname : name.length ≤ nameLimit) :
    tree.Leads false (steps ++ [.name name]) (dir ++ [name]) :=
  Walks.append h hdir nofun fun _ => .of_name hdir hname

/-- What leads to a name leads to an open directory first. -/
theorem reaches_of_leads_name (h : tree.Leads follow (steps ++ [.name name]) dest) :
    ∃ dir, tree.Leads true steps dir ∧ tree.isOpen dir = true ∧ name.length ≤ nameLimit ∧
      (follow = false → dest = dir ++ [name]) := by
  obtain ⟨dir, m, hfirst, hlast⟩ := Walks.split h (List.cons_ne_nil _ _)
  refine ⟨dir, hfirst, hlast.isOpen_of_cons nofun, ?_⟩
  cases hlast with
  | missing hloc hname hentry => exact ⟨hname, fun _ => rfl⟩
  | stop hloc hname hentry hfollow => exact ⟨hname, fun _ => rfl⟩
  | link hloc hname hentry hgo h =>
      refine ⟨hname, ?_⟩
      intro hfollow
      rw [hgo rfl] at hfollow
      cases hfollow
  | enter hloc hname hentry hlink h =>
      cases h
      exact ⟨hname, fun _ => rfl⟩

/-- On the way to an open directory nothing is free. -/
theorem not_free_of_reaches (hroot : .root ∉ steps.tail) (h : tree.Reaches steps)
    (hpart : part <+: steps) (hne : part ≠ []) : ¬ tree.Free part := by
  rintro ⟨loc, hleads, hfree⟩
  have hfollowed : tree.Leads true part loc := by
    apply Walks.followed hleads
    intro target hentry
    rw [hfree] at hentry
    cases hentry
  obtain ⟨dir, hdir, hopen⟩ := h
  obtain ⟨rest, rfl⟩ := hpart
  have hmid : tree.isOpen loc = true := by
    cases rest with
    | nil =>
        rw [List.append_nil] at hdir
        rwa [Walks.unique hfollowed hdir]
    | cons step rest =>
        obtain ⟨mid, m, hfirst, hlast⟩ := Walks.split hdir (List.cons_ne_nil _ _)
        rw [Walks.unique hfollowed hfirst]
        apply hlast.isOpen_of_cons
        rintro rfl
        apply hroot
        rw [List.tail_append_of_ne_nil hne]
        exact List.mem_append_right _ List.mem_cons_self
  rw [isOpen_iff, hfree] at hmid
  cases hmid

theorem not_prefix_of_isOpen_prune (hloc : loc ≠ []) (h : (tree.prune loc).isOpen dir = true) :
    ¬ loc <+: dir := by
  intro hbelow
  have hdir : dir ≠ [] := by
    rintro rfl
    exact hloc (List.prefix_nil.1 hbelow)
  rw [isOpen_iff, entry?_prune_below hbelow hdir] at h
  cases h

/-- Deleting frees no place on the way to an open directory, unless the way goes by name through
what is deleted. -/
theorem not_free_prune (hroot : .root ∉ steps.tail) (h : tree.Reaches steps) (hloc : loc ≠ [])
    (happart : ∀ part name, part ++ [.name name] <+: steps →
      ¬ tree.Leads false (part ++ [.name name]) loc)
    (hpart : part <+: steps) (hne : part ≠ []) : ¬ (tree.prune loc).Free part := by
  rintro ⟨dest, hleads, hfree⟩
  obtain ⟨front, step, rfl⟩ : ∃ front step, part = front ++ [step] :=
    ⟨_, _, (List.dropLast_concat_getLast hne).symm⟩
  obtain ⟨mid, m, hfirst, hlast⟩ := Walks.split hleads (List.cons_ne_nil _ _)
  -- what is free now and was not before has been deleted, and the directory it lies in has not
  have hdeleted : ∀ {dest}, entry? (tree.prune loc) dest = none →
      tree.Leads false (front ++ [step]) dest → loc <+: dest := by
    intro dest hfree hleads
    apply Classical.byContradiction
    intro hkept
    rw [ entry?_prune_elsewhere hkept] at hfree
    exact not_free_of_reaches hroot h hpart hne ⟨dest, hleads, hfree⟩
  cases hlast with
  | root h =>
      cases h
      cases hfree
  | here hopen h =>
      cases h
      rw [isOpen_iff, hfree] at hopen
      cases hopen
  | up hopen h =>
      cases h
      have hmid := (prune_within tree loc).leads_of_isOpen hfirst hopen
      have hup : tree.Leads false (front ++ [.up]) mid.dropLast :=
        Walks.append hmid ((prune_within tree loc).isOpen hopen) nofun
          fun _ => .up ((prune_within tree loc).isOpen hopen) .done
      exact not_prefix_of_isOpen_prune hloc hopen
        ((hdeleted hfree hup).trans (List.dropLast_prefix mid))
  | @missing _ _ name hopen hname hentry =>
      have hmid := (prune_within tree loc).leads_of_isOpen hfirst hopen
      have hname := leads_name hmid ((prune_within tree loc).isOpen hopen) hname
      rcases List.prefix_concat_iff.1 (hdeleted hfree hname) with hsame | hbelow
      · rw [hsame] at happart
        exact happart front name hpart hname
      · exact not_prefix_of_isOpen_prune hloc hopen hbelow
  | stop hopen hname hentry hfollow =>
      rw [hentry] at hfree
      cases hfree
  | link hopen hname hentry hgo h => exact absurd (hgo rfl) Bool.false_ne_true
  | enter hopen hname hentry hlink h =>
      cases h
      rw [hentry] at hfree
      cases hfree

end Leads

section Making

variable {steps : List Component}

theorem makeDirectory_eq_ok_iff {made : FileTree} :
    tree.makeDirectory steps = .ok made ↔
      ∃ loc, tree.Leads false steps loc ∧ tree.entry? loc = none ∧
        made = tree.put loc (.directory false) := by
  unfold makeDirectory
  cases hresolve : resolveFrom tree false linkLimit tree.working steps with
  | error e =>
      simp only [reduceCtorEq, false_iff, not_exists, not_and]
      intro loc hleads
      rw [resolveFrom_eq_ok_iff.2 hleads] at hresolve
      cases hresolve
  | ok loc =>
      have hleads : tree.Leads false steps loc := resolveFrom_eq_ok_iff.1 hresolve
      cases hentry : tree.entry? loc with
      | none =>
          simp only [hentry, Except.ok.injEq]
          constructor
          · rintro rfl
            exact ⟨loc, hleads, hentry, rfl⟩
          · rintro ⟨other, hother, -, rfl⟩
            rw [Walks.unique hleads hother]
      | some entry =>
          simp only [hentry, reduceCtorEq, false_iff, not_exists, not_and]
          intro other hother hfree
          rw [← Walks.unique hleads hother, hentry] at hfree
          cases hfree

theorem free_of_makeDirectory {made : FileTree} (h : tree.makeDirectory steps = .ok made) :
    tree.Free steps := by
  obtain ⟨loc, hleads, hfree, -⟩ := makeDirectory_eq_ok_iff.1 h
  exact ⟨loc, hleads, hfree⟩

theorem leadsToDirectory_of_leads {loc : Location} {locked : Bool}
    (h : tree.Leads true steps loc) (hentry : tree.entry? loc = some (.directory locked)) :
    tree.leadsToDirectory steps = true := by
  rw [leadsToDirectory, resolveFrom_eq_ok_iff.2 h]
  simp only [hentry]

theorem leads_of_leadsToDirectory (h : tree.leadsToDirectory steps = true) :
    ∃ loc locked, tree.Leads true steps loc ∧ tree.entry? loc = some (.directory locked) := by
  unfold leadsToDirectory at h
  split at h
  · rename_i loc hresolve
    split at h
    · rename_i locked hentry
      exact ⟨loc, locked, resolveFrom_eq_ok_iff.1 hresolve, hentry⟩
    · cases h
  · cases h

/-- All that making a directory with those above it can come to, if those above it are `ready`
first. -/
inductive Making (step : Component) (above : List Component) (tree : FileTree) :
    FileTree × Option DiskError → Prop
  | made {ready made : FileTree}
      (hready : ready = tree ∨ makeDirectoriesFrom above tree = (ready, none))
      (h : ready.makeDirectory (step :: above).reverse = .ok made) :
      Making step above tree (made, none)
  | there {ready : FileTree}
      (hready : ready = tree ∨ makeDirectoriesFrom above tree = (ready, none))
      (h : ready.leadsToDirectory (step :: above).reverse = true) :
      Making step above tree (ready, none)
  | refused {ready : FileTree} {e : DiskError}
      (hready : ready = tree ∨ makeDirectoriesFrom above tree = (ready, none)) :
      Making step above tree (ready, some e)
  | stopped {stopped : FileTree} {e : DiskError}
      (h : makeDirectoriesFrom above tree = (stopped, some e)) :
      Making step above tree (stopped, some e)

theorem making_settled {step : Component} {above : List Component} {ready : FileTree}
    {e : DiskError} (hready : ready = tree ∨ makeDirectoriesFrom above tree = (ready, none)) :
    Making step above tree
      (if ready.leadsToDirectory (step :: above).reverse then (ready, none)
        else (ready, some e)) := by
  split
  · rename_i h
    exact .there hready h
  · exact .refused hready

theorem makeDirectoriesFrom_making (step : Component) (above : List Component) (tree : FileTree) :
    Making step above tree (makeDirectoriesFrom (step :: above) tree) := by
  rw [makeDirectoriesFrom]
  split
  · rename_i made h
    exact .made (.inl rfl) h
  · split
    · rename_i h
      exact .stopped h
    · rename_i ready h
      split
      · rename_i made hmade
        exact .made (.inr h) hmade
      · exact making_settled (.inr h)
  · exact making_settled (.inl rfl)

/-- From `tree` to `later`, open directories were added along the steps, and nothing else was
done. -/
structure Added (steps : List Component) (tree later : FileTree) : Prop where
  working : later.working = tree.working
  entry : ∀ loc, later.entry? loc = tree.entry? loc ∨
    tree.entry? loc = none ∧ later.entry? loc = some (.directory false) ∧
      ∃ part, part <+: steps ∧ later.Leads false part loc

namespace Added

variable {later last : FileTree} {above : List Component}

theorem refl (steps : List Component) (tree : FileTree) : Added steps tree tree :=
  ⟨rfl, fun _ => .inl rfl⟩

theorem within (h : Added steps tree later) : Within tree later := by
  refine ⟨h.working.symm, ?_⟩
  intro loc entry hentry
  rcases h.entry loc with hsame | ⟨hnone, -⟩
  · exact hsame.trans hentry
  · rw [hnone] at hentry
    cases hentry

theorem longer (h : Added above tree later) (hbelow : above <+: steps) :
    Added steps tree later := by
  refine ⟨h.working, ?_⟩
  intro loc
  rcases h.entry loc with hsame | ⟨hnone, hentry, part, hpart, hleads⟩
  · exact .inl hsame
  · exact .inr ⟨hnone, hentry, part, hpart.trans hbelow, hleads⟩

theorem trans (h : Added steps tree later) (h' : Added steps later last) :
    Added steps tree last := by
  refine ⟨h'.working.trans h.working, ?_⟩
  intro loc
  rcases h'.entry loc with hsame | ⟨hnone, hentry, hleads⟩
  · rw [hsame]
    rcases h.entry loc with hsame | ⟨hnone, hentry, part, hpart, hleads⟩
    · exact .inl hsame
    · refine .inr ⟨hnone, hentry, part, hpart, h'.within.leads hleads ?_⟩
      intro hfree
      rw [hentry] at hfree
      cases hfree
  · refine .inr ⟨?_, hentry, hleads⟩
    rcases h.entry loc with hsame | ⟨hnone', -⟩
    · rw [← hsame, hnone]
    · exact hnone'

/-- Making one directory at a free place. -/
theorem put {loc : Location} (hleads : tree.Leads false steps loc)
    (hfree : tree.entry? loc = none) : Added steps tree (tree.put loc (.directory false)) := by
  refine ⟨rfl, ?_⟩
  intro other
  by_cases hother : other = loc
  · subst hother
    exact .inr ⟨hfree, entry?_put_self tree (ne_nil_of_free hfree) _, steps,
      List.prefix_refl steps, leads_put hleads hfree⟩
  · exact .inl (entry?_put_of_ne hother _)

end Added

/-- Directories are made along the steps that are given, and nothing else is touched. -/
theorem makeDirectoriesFrom_added (reversed : List Component) (tree : FileTree) :
    Added reversed.reverse tree (makeDirectoriesFrom reversed tree).1 := by
  induction reversed generalizing tree with
  | nil => exact .refl _ tree
  | cons step above ih =>
      have habove : above.reverse <+: (step :: above).reverse := by
        rw [List.reverse_cons]
        exact List.prefix_append _ _
      have hready : ∀ {ready}, ready = tree ∨ makeDirectoriesFrom above tree = (ready, none) →
          Added (step :: above).reverse tree ready := by
        rintro ready (rfl | h)
        · exact .refl _ ready
        · have hadded := ih tree
          rw [h] at hadded
          exact hadded.longer habove
      have hmaking := makeDirectoriesFrom_making step above tree
      generalize makeDirectoriesFrom (step :: above) tree = result at hmaking
      cases hmaking with
      | made hfirst h =>
          obtain ⟨loc, hleads, hfree, rfl⟩ := makeDirectory_eq_ok_iff.1 h
          exact (hready hfirst).trans (.put hleads hfree)
      | there hfirst h => exact hready hfirst
      | refused hfirst => exact hready hfirst
      | stopped h =>
          have hadded := ih tree
          rw [h] at hadded
          exact hadded.longer habove

/-- Where no step of the way is free, nothing is made. -/
theorem makeDirectoriesFrom_of_filled {reversed : List Component}
    (h : ∀ part, part <+: reversed.reverse → part ≠ [] → ¬ tree.Free part) :
    (makeDirectoriesFrom reversed tree).1 = tree := by
  induction reversed with
  | nil => rfl
  | cons step above ih =>
      have hstep : ¬ tree.Free (step :: above).reverse :=
        h _ (List.prefix_refl _) (List.reverse_ne_nil_iff.2 (List.cons_ne_nil _ _))
      have habove : (makeDirectoriesFrom above tree).1 = tree := by
        apply ih
        intro part hpart
        apply h part
        rw [List.reverse_cons]
        exact hpart.trans (List.prefix_append _ _)
      have hready : ∀ {ready}, ready = tree ∨ makeDirectoriesFrom above tree = (ready, none) →
          ready = tree := by
        rintro ready (rfl | h)
        · rfl
        · rwa [h] at habove
      have hmaking := makeDirectoriesFrom_making step above tree
      generalize makeDirectoriesFrom (step :: above) tree = result at hmaking
      cases hmaking with
      | made hfirst h =>
          rw [hready hfirst] at h
          exact absurd (free_of_makeDirectory h) hstep
      | there hfirst h => exact hready hfirst
      | refused hfirst => exact hready hfirst
      | stopped h => rwa [h] at habove

/-- A free place is filled at once, without a look at those above it. -/
theorem makeDirectoriesFrom_of_made {step : Component} {above : List Component} {made : FileTree}
    (h : tree.makeDirectory (step :: above).reverse = .ok made) :
    makeDirectoriesFrom (step :: above) tree = (made, none) := by
  rw [makeDirectoriesFrom]
  simp only [h]

/-- What was made without an error is there. -/
theorem leadsToDirectory_of_made {reversed : List Component} {later : FileTree}
    (h : makeDirectoriesFrom reversed tree = (later, none)) (hne : reversed ≠ []) :
    later.leadsToDirectory reversed.reverse = true := by
  obtain ⟨step, above, rfl⟩ := List.exists_cons_of_ne_nil hne
  have hmaking := makeDirectoriesFrom_making step above tree
  rw [h] at hmaking
  cases hmaking with
  | @made ready _ hfirst h =>
      obtain ⟨loc, hleads, hfree, rfl⟩ := makeDirectory_eq_ok_iff.1 h
      have hself := entry?_put_self ready (ne_nil_of_free hfree) (.directory false)
      apply leadsToDirectory_of_leads _ hself
      apply Walks.followed (leads_put hleads hfree)
      intro target hlink
      rw [hself] at hlink
      cases hlink
  | there hfirst h => exact h

end Making

section Paths

variable {p : Path}

/-- Deleting takes away all that is at and below one location, or fails. It fails before it has
touched anything, or at a locked directory. -/
theorem removeTree_cases (tree : FileTree) (p : Path) :
    (∃ loc, tree.resolve false p = .ok loc ∧ tree.removeTree p = (tree.prune loc, none)) ∨
      (∃ e, tree.removeTree p = (tree, some e)) ∨
      ∃ loc stop, tree.resolve false p = .ok loc ∧ tree.firstLocked? loc = some stop ∧
        tree.removeTree p = (tree.pruneUntil loc stop, some .denied) := by
  unfold removeTree
  cases hresolve : tree.resolve false p with
  | error e => exact .inr (.inl ⟨e, rfl⟩)
  | ok loc =>
      simp only
      split
      · exact .inr (.inl ⟨_, rfl⟩)
      · exact .inl ⟨loc, rfl, rfl⟩
      · exact .inr (.inl ⟨_, rfl⟩)
      · split
        · rename_i stop hstop
          exact .inr (.inr ⟨loc, stop, rfl, hstop, rfl⟩)
        · exact .inl ⟨loc, rfl, rfl⟩

end Paths

end PipelineServer.FileTree
