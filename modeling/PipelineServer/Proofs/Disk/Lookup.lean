import PipelineServer.Disk.Sources
import PipelineServer.Proofs.Path

/-!
What a lookup does, step by step.

`FileTree.Walks` is the lookup as a relation: it says which location a list of steps leads to and
how many links may be passed. Where a path leads can then be followed by induction over the steps
that were really taken, those behind links included.
-/

namespace PipelineServer.FileTree

variable {tree : FileTree} {follow : Bool}

theorem isOpen_iff {loc : Location} :
    tree.isOpen loc = true ↔ tree.entry? loc = some (.directory false) := beq_iff_eq

theorem barrier?_eq_none_iff {loc : Location} :
    tree.barrier? loc = none ↔ tree.isOpen loc = true := by
  rw [isOpen_iff, barrier?]
  split <;> simp_all

/-- From a directory, some steps lead to a location, along at most so many links. -/
inductive Walks (tree : FileTree) (follow : Bool) :
    Nat → Location → List Component → Location → Prop
  | done {n : Nat} {loc : Location} : Walks tree follow n loc [] loc
  | root {n : Nat} {loc dest : Location} {rest : List Component}
      (h : Walks tree follow n [] rest dest) : Walks tree follow n loc (.root :: rest) dest
  | here {n : Nat} {loc dest : Location} {rest : List Component} (hloc : tree.isOpen loc = true)
      (h : Walks tree follow n loc rest dest) : Walks tree follow n loc (.here :: rest) dest
  | up {n : Nat} {loc dest : Location} {rest : List Component} (hloc : tree.isOpen loc = true)
      (h : Walks tree follow n loc.dropLast rest dest) :
      Walks tree follow n loc (.up :: rest) dest
  /-- The last step may name something that is not there. -/
  | missing {n : Nat} {loc : Location} {name : FileName} (hloc : tree.isOpen loc = true)
      (hname : name.length ≤ nameLimit) (hentry : tree.entry? (loc ++ [name]) = none) :
      Walks tree follow n loc [.name name] (loc ++ [name])
  /-- A link at the end may be meant itself. -/
  | stop {n : Nat} {loc : Location} {name : FileName} {target : Path}
      (hloc : tree.isOpen loc = true) (hname : name.length ≤ nameLimit)
      (hentry : tree.entry? (loc ++ [name]) = some (.link target)) (hfollow : follow = false) :
      Walks tree follow n loc [.name name] (loc ++ [name])
  | link {n : Nat} {loc dest : Location} {name : FileName} {target : Path}
      {rest : List Component} (hloc : tree.isOpen loc = true) (hname : name.length ≤ nameLimit)
      (hentry : tree.entry? (loc ++ [name]) = some (.link target))
      (hgo : rest = [] → follow = true) (h : Walks tree follow n loc (target.steps ++ rest) dest) :
      Walks tree follow (n + 1) loc (.name name :: rest) dest
  | enter {n : Nat} {loc dest : Location} {name : FileName} {entry : Entry}
      {rest : List Component} (hloc : tree.isOpen loc = true) (hname : name.length ≤ nameLimit)
      (hentry : tree.entry? (loc ++ [name]) = some entry) (hlink : ∀ target, entry ≠ .link target)
      (h : Walks tree follow n (loc ++ [name]) rest dest) :
      Walks tree follow n loc (.name name :: rest) dest

theorem walk_here {jump : Jump} {loc : Location} (hloc : tree.isOpen loc = true)
    (rest : List Component) :
    walk tree follow jump loc (.here :: rest) = walk tree follow jump loc rest := by
  rw [walk, barrier?_eq_none_iff.2 hloc]

theorem walk_up {jump : Jump} {loc : Location} (hloc : tree.isOpen loc = true)
    (rest : List Component) :
    walk tree follow jump loc (.up :: rest) = walk tree follow jump loc.dropLast rest := by
  rw [walk, barrier?_eq_none_iff.2 hloc]

theorem walk_name {jump : Jump} {loc : Location} {name : FileName} (hloc : tree.isOpen loc = true)
    (hname : name.length ≤ nameLimit) (rest : List Component) :
    walk tree follow jump loc (.name name :: rest) =
      match tree.entry? (loc ++ [name]) with
      | none => if rest.isEmpty then .ok (loc ++ [name]) else .error .notFound
      | some (.link target) =>
          if rest.isEmpty && !follow then .ok (loc ++ [name])
          else jump loc (target.steps ++ rest)
      | some _ => walk tree follow jump (loc ++ [name]) rest := by
  rw [walk, barrier?_eq_none_iff.2 hloc]
  exact if_neg (Nat.not_lt.2 hname)

/-- A walk goes on from open directories only, and along names that are not too long. -/
theorem isOpen_of_walk {jump : Jump} {loc dest : Location} {step : Component}
    {rest : List Component} (h : walk tree follow jump loc (step :: rest) = .ok dest)
    (hroot : step ≠ .root) : tree.isOpen loc = true ∧ step.spelling.length ≤ nameLimit := by
  cases hbarrier : tree.barrier? loc with
  | some e => cases step <;> simp [walk, hbarrier] at h hroot
  | none =>
      refine ⟨barrier?_eq_none_iff.1 hbarrier, ?_⟩
      cases step with
      | root => exact absurd rfl hroot
      | here => decide
      | up => decide
      | name name =>
          rw [walk, hbarrier] at h
          simp only at h
          split at h
          · cases h
          · rename_i hlength
            exact Nat.le_of_not_lt hlength

section Jump

variable {jump : Jump} {n : Nat}
  (hjump : ∀ loc steps dest, jump loc steps = .ok dest ↔
    ∃ m, n = m + 1 ∧ Walks tree follow m loc steps dest)
include hjump

theorem walks_of_walk_name {loc dest : Location} {name : FileName} {rest : List Component}
    (hrest : ∀ loc, walk tree follow jump loc rest = .ok dest → Walks tree follow n loc rest dest)
    (h : walk tree follow jump loc (.name name :: rest) = .ok dest) :
    Walks tree follow n loc (.name name :: rest) dest := by
  obtain ⟨hloc, hname⟩ : tree.isOpen loc = true ∧ name.length ≤ nameLimit :=
    isOpen_of_walk h nofun
  rw [walk_name hloc hname] at h
  split at h
  · rename_i hentry
    split at h
    · rename_i hlast
      cases h
      rw [List.isEmpty_iff.1 hlast]
      exact .missing hloc hname hentry
    · cases h
  · rename_i target hentry
    split at h
    · rename_i hstop
      rw [Bool.and_eq_true, Bool.not_eq_true'] at hstop
      cases h
      rw [List.isEmpty_iff.1 hstop.1]
      exact .stop hloc hname hentry hstop.2
    · rename_i hgo
      obtain ⟨m, rfl, hwalks⟩ := (hjump _ _ _).1 h
      refine .link hloc hname hentry ?_ hwalks
      intro hlast
      simpa [hlast] using hgo
  · rename_i entry hlink hentry
    exact .enter hloc hname hentry hlink (hrest _ h)

theorem walk_name_of_walks {loc dest : Location} {name : FileName} {rest : List Component}
    (hrest : ∀ loc, Walks tree follow n loc rest dest → walk tree follow jump loc rest = .ok dest)
    (h : Walks tree follow n loc (.name name :: rest) dest) :
    walk tree follow jump loc (.name name :: rest) = .ok dest := by
  cases h with
  | missing hloc hname hentry => simp [walk_name hloc hname, hentry]
  | stop hloc hname hentry hfollow => simp [walk_name hloc hname, hentry, hfollow]
  | link hloc hname hentry hgo h =>
      have hpass : (rest.isEmpty && !follow) = false := by
        cases rest with
        | nil => simp [hgo rfl]
        | cons step rest => rfl
      simp only [walk_name hloc hname, hentry, hpass, Bool.false_eq_true, if_false]
      exact (hjump _ _ _).2 ⟨_, rfl, h⟩
  | @enter _ _ _ _ entry _ hloc hname hentry hlink h =>
      rw [walk_name hloc hname, hentry]
      cases entry with
      | file content locked => exact hrest _ h
      | directory locked => exact hrest _ h
      | link target => exact absurd rfl (hlink target)

theorem walk_eq_ok_iff {loc dest : Location} {steps : List Component} :
    walk tree follow jump loc steps = .ok dest ↔ Walks tree follow n loc steps dest := by
  induction steps generalizing loc with
  | nil =>
      constructor
      · intro h
        cases h
        exact .done
      · intro h
        cases h
        rfl
  | cons step rest ih =>
      cases step with
      | root =>
          rw [walk, ih]
          exact ⟨.root, fun h => by cases h; assumption⟩
      | here =>
          constructor
          · intro h
            have hloc := (isOpen_of_walk h nofun).1
            rw [walk_here hloc] at h
            exact .here hloc (ih.1 h)
          · intro h
            cases h with
            | here hloc h =>
                rw [walk_here hloc]
                exact ih.2 h
      | up =>
          constructor
          · intro h
            have hloc := (isOpen_of_walk h nofun).1
            rw [walk_up hloc] at h
            exact .up hloc (ih.1 h)
          · intro h
            cases h with
            | up hloc h =>
                rw [walk_up hloc]
                exact ih.2 h
      | name name =>
          exact ⟨walks_of_walk_name hjump fun _ => ih.1, walk_name_of_walks hjump fun _ => ih.2⟩

end Jump

theorem resolveFrom_eq_ok_iff {n : Nat} {loc dest : Location} {steps : List Component} :
    resolveFrom tree follow n loc steps = .ok dest ↔ Walks tree follow n loc steps dest := by
  induction n generalizing loc dest steps with
  | zero =>
      apply walk_eq_ok_iff
      intro loc steps dest
      constructor
      · intro h
        cases h
      · rintro ⟨m, hm, -⟩
        cases hm
  | succ n ih =>
      apply walk_eq_ok_iff
      intro loc steps dest
      rw [ih]
      constructor
      · intro h
        exact ⟨n, rfl, h⟩
      · rintro ⟨m, hm, h⟩
        cases hm
        exact h

namespace Walks

/-- What leads to an open directory can be prolonged. A link at the end of what leads there is
followed, so without further steps links have to be followed. -/
theorem append {n : Nat} {loc dir dest : Location} {steps rest : List Component}
    (h : Walks tree true n loc steps dir) (hdir : tree.isOpen dir = true)
    (hgo : rest = [] → follow = true) (hrest : ∀ n, Walks tree follow n dir rest dest) :
    Walks tree follow n loc (steps ++ rest) dest := by
  induction h with
  | done => exact hrest _
  | root h ih => exact .root (ih hdir hrest)
  | here hloc h ih => exact .here hloc (ih hdir hrest)
  | up hloc h ih => exact .up hloc (ih hdir hrest)
  | missing hloc hname hentry =>
      rw [isOpen_iff, hentry] at hdir
      cases hdir
  | stop hloc hname hentry hfollow => cases hfollow
  | link hloc hname hentry _ h ih =>
      have hwalks := ih hdir hrest
      rw [List.append_assoc] at hwalks
      refine .link hloc hname hentry ?_ hwalks
      intro hempty
      exact hgo (List.append_eq_nil_iff.1 hempty).2
  | enter hloc hname hentry hlink h ih => exact .enter hloc hname hentry hlink (ih hdir hrest)

theorem exists_eq_cons_of_append_here {steps rest : List Component} {first : Component}
    (h : steps ++ [.here] = first :: rest) (hfirst : first ≠ .here) :
    ∃ steps', steps = first :: steps' ∧ steps' ++ [.here] = rest := by
  rcases List.append_eq_cons_iff.1 h with ⟨-, heq⟩ | ⟨steps', hsteps, hrest⟩
  · exact absurd (List.cons.inj heq).1.symm hfirst
  · exact ⟨steps', hsteps, hrest.symm⟩

/-- A closing slash does not lead elsewhere. -/
theorem of_append_here {n : Nat} {loc dest : Location} {steps : List Component}
    (h : Walks tree true n loc (steps ++ [.here]) dest) : Walks tree true n loc steps dest := by
  generalize hall : steps ++ [.here] = all at h
  induction h generalizing steps with
  | done => simp at hall
  | root h ih =>
      obtain ⟨steps, rfl, hrest⟩ := exists_eq_cons_of_append_here hall nofun
      exact .root (ih hrest)
  | here hloc h ih =>
      cases steps with
      | nil =>
          obtain ⟨-, rfl⟩ := List.cons.inj hall
          cases h
          exact .done
      | cons step steps =>
          obtain ⟨rfl, hrest⟩ := List.cons.inj hall
          exact .here hloc (ih hrest)
  | up hloc h ih =>
      obtain ⟨steps, rfl, hrest⟩ := exists_eq_cons_of_append_here hall nofun
      exact .up hloc (ih hrest)
  | missing hloc hname hentry =>
      obtain ⟨steps, -, hrest⟩ := exists_eq_cons_of_append_here hall nofun
      simp at hrest
  | stop hloc hname hentry hfollow => cases hfollow
  | link hloc hname hentry hgo h ih =>
      obtain ⟨steps, rfl, hrest⟩ := exists_eq_cons_of_append_here hall nofun
      refine .link hloc hname hentry (fun _ => rfl) (ih ?_)
      rw [List.append_assoc, hrest]
  | enter hloc hname hentry hlink h ih =>
      obtain ⟨steps, rfl, hrest⟩ := exists_eq_cons_of_append_here hall nofun
      exact .enter hloc hname hentry hlink (ih hrest)

/-- Without following a link at the end, a walk ends at that link or where it ends otherwise. -/
theorem unfollowed {n : Nat} {loc dest : Location} {steps : List Component}
    (h : Walks tree true n loc steps dest) :
    ∃ place, Walks tree false n loc steps place ∧
      (place = dest ∨ ∃ target, tree.entry? place = some (.link target)) := by
  induction h with
  | done => exact ⟨_, .done, .inl rfl⟩
  | root h ih =>
      obtain ⟨place, hwalks, hplace⟩ := ih
      exact ⟨place, .root hwalks, hplace⟩
  | here hloc h ih =>
      obtain ⟨place, hwalks, hplace⟩ := ih
      exact ⟨place, .here hloc hwalks, hplace⟩
  | up hloc h ih =>
      obtain ⟨place, hwalks, hplace⟩ := ih
      exact ⟨place, .up hloc hwalks, hplace⟩
  | missing hloc hname hentry => exact ⟨_, .missing hloc hname hentry, .inl rfl⟩
  | stop hloc hname hentry hfollow => cases hfollow
  | @link _ _ _ _ target rest hloc hname hentry hgo h ih =>
      cases rest with
      | nil => exact ⟨_, .stop hloc hname hentry rfl, .inr ⟨target, hentry⟩⟩
      | cons step rest =>
          obtain ⟨place, hwalks, hplace⟩ := ih
          exact ⟨place, .link hloc hname hentry nofun hwalks, hplace⟩
  | enter hloc hname hentry hlink h ih =>
      obtain ⟨place, hwalks, hplace⟩ := ih
      exact ⟨place, .enter hloc hname hentry hlink hwalks, hplace⟩

end Walks

/-- Where a path leads: it must not be refused, and its steps must lead there. -/
theorem resolve_eq_ok_iff {p : Path} {dest : Location} :
    tree.resolve follow p = .ok dest ↔
      refusal? p = none ∧ p.bytes ≠ [] ∧
        Walks tree follow linkLimit tree.working p.steps dest := by
  unfold resolve
  cases refusal? p with
  | some e => simp
  | none =>
      by_cases hbytes : p.bytes = []
      · simp [hbytes]
      · simp [hbytes, resolveFrom_eq_ok_iff]

/-- A closing slash does not matter for what leads to an open directory. -/
theorem walks_steps_iff {n : Nat} {loc dir : Location} {p : Path} (hdir : tree.isOpen dir = true) :
    Walks tree true n loc p.steps dir ↔ Walks tree true n loc p.components dir := by
  unfold Path.steps
  split
  · constructor
    · exact Walks.of_append_here
    · intro h
      exact h.append hdir (fun _ => rfl) fun n => .here hdir .done
  · rfl

theorem refusal?_eq_none_iff {p : Path} :
    refusal? p = none ↔ 0 ∉ p.bytes ∧ p.bytes.length ≤ pathLimit := by
  unfold refusal?
  by_cases hzero : 0 ∈ p.bytes
  · simp [hzero]
  · by_cases hlength : pathLimit < p.bytes.length
    · simp [hzero, hlength]
    · simp [hzero, hlength, Nat.le_of_not_lt hlength]

theorem refusal?_of_sublist {p q : Path} (h : q.bytes.Sublist p.bytes) (hp : refusal? p = none) :
    refusal? q = none := by
  rw [refusal?_eq_none_iff] at hp ⊢
  exact ⟨fun hzero => hp.1 (h.subset hzero), Nat.le_trans h.length_le hp.2⟩

/-- Two paths with the same steps lead to the same place, if both can be looked up. -/
theorem resolve_congr {p q : Path} (hp : refusal? p = none) (hq : refusal? q = none)
    (hpne : p.bytes ≠ []) (hqne : q.bytes ≠ []) (hsteps : p.steps = q.steps) :
    tree.resolve follow p = tree.resolve follow q := by
  simp only [resolve, hp, hq, hpne, hqne, if_false, hsteps]

end PipelineServer.FileTree
