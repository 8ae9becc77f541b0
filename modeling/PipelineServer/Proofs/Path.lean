import PipelineServer.Path

/-!
Paths and their components.

Many byte sequences have the same components. One of them has a slash in front of every step and
nothing else (`Path.written`); it is what remains of an absolute path when all that does not count
is left out, so it can be looked up if the path can.
-/

namespace PipelineServer

namespace Component

/-- How a step is written between slashes. -/
def spelling : Component → List UInt8
  | .name bytes => bytes
  | .up => [Path.dot, Path.dot]
  | .here | .root => [Path.dot]

/-- The step is what its spelling is read as. -/
def Readable (c : Component) : Prop :=
  Path.slash ∉ c.spelling ∧ Path.component? c.spelling = some c

theorem spelling_of_component? {piece : List UInt8} {c : Component}
    (h : Path.component? piece = some c) : c.spelling = piece := by
  unfold Path.component? at h
  split at h
  · cases h
  · split at h
    · rename_i hup
      cases h
      exact hup.symm
    · cases h
      rfl

end Component

namespace Path

theorem splitSlash_ne_nil (bytes : List UInt8) : splitSlash bytes ≠ [] := by
  cases bytes with
  | nil => simp [splitSlash]
  | cons b rest =>
      unfold splitSlash
      split
      · simp
      · split <;> simp

theorem splitSlash_cons (b : UInt8) (rest : List UInt8) :
    splitSlash (b :: rest) =
      if b = slash then [] :: splitSlash rest else (splitSlash rest).modifyHead (b :: ·) := by
  rw [splitSlash]
  cases hrest : splitSlash rest with
  | nil => exact absurd hrest (splitSlash_ne_nil rest)
  | cons piece pieces => rfl

theorem splitSlash_append (front rest : List UInt8) :
    splitSlash (front ++ slash :: rest) = splitSlash front ++ splitSlash rest := by
  induction front with
  | nil => simp [splitSlash_cons, splitSlash]
  | cons b front ih =>
      rw [List.cons_append, splitSlash_cons, splitSlash_cons, ih]
      split
      · rfl
      · cases hfront : splitSlash front with
        | nil => exact absurd hfront (splitSlash_ne_nil front)
        | cons piece pieces => rfl

theorem splitSlash_of_not_mem {piece : List UInt8} (h : slash ∉ piece) :
    splitSlash piece = [piece] := by
  induction piece with
  | nil => rfl
  | cons b rest ih =>
      simp only [List.mem_cons, not_or] at h
      rw [splitSlash_cons, if_neg (Ne.symm h.1), ih h.2]
      rfl

theorem slash_not_mem_of_mem_splitSlash {bytes piece : List UInt8} (h : piece ∈ splitSlash bytes) :
    slash ∉ piece := by
  induction bytes generalizing piece with
  | nil =>
      obtain rfl : piece = [] := by simpa [splitSlash] using h
      exact List.not_mem_nil
  | cons b rest ih =>
      rw [splitSlash_cons] at h
      split at h
      · rcases List.mem_cons.1 h with rfl | hrest
        · exact List.not_mem_nil
        · exact ih hrest
      · rename_i hb
        cases hrest : splitSlash rest with
        | nil => exact absurd hrest (splitSlash_ne_nil rest)
        | cons first pieces =>
            rw [hrest, List.modifyHead_cons] at h
            rcases List.mem_cons.1 h with rfl | hpiece
            · have hfirst : slash ∉ first := ih (by simp [hrest])
              simp [hfirst, Ne.symm hb]
            · exact ih (by simp [hrest, hpiece])

/-- Putting a slash in front of every piece gives the bytes back. -/
theorem flatMap_splitSlash (bytes : List UInt8) :
    (splitSlash bytes).flatMap (slash :: ·) = slash :: bytes := by
  induction bytes with
  | nil => rfl
  | cons b rest ih =>
      rw [splitSlash_cons]
      split
      · rename_i hb
        rw [List.flatMap_cons, ih, hb]
        rfl
      · cases hrest : splitSlash rest with
        | nil => exact absurd hrest (splitSlash_ne_nil rest)
        | cons piece pieces =>
            rw [hrest, List.flatMap_cons, List.cons_append, List.cons.injEq] at ih
            rw [List.modifyHead_cons, List.flatMap_cons, List.cons_append, List.cons_append, ih.2]

theorem splitSlash_flatMap {first : List UInt8} {pieces : List (List UInt8)}
    (hfirst : slash ∉ first) (hpieces : ∀ piece ∈ pieces, slash ∉ piece) :
    splitSlash (first ++ pieces.flatMap (slash :: ·)) = first :: pieces := by
  induction pieces generalizing first with
  | nil => rw [List.flatMap_nil, List.append_nil, splitSlash_of_not_mem hfirst]
  | cons piece rest ih =>
      have hrest := ih (hpieces piece List.mem_cons_self) fun piece' hpiece' =>
        hpieces piece' (List.mem_cons_of_mem piece hpiece')
      rw [List.flatMap_cons, List.cons_append, splitSlash_append, hrest,
        splitSlash_of_not_mem hfirst]
      rfl

theorem components_of_isAbsolute {p : Path} (h : p.isAbsolute = true) :
    p.components = .root :: (splitSlash p.bytes).filterMap component? := by
  rw [components, if_pos h]

/-- An absolute path starts with a slash, and its steps are the pieces behind. -/
theorem exists_of_isAbsolute {p : Path} (h : p.isAbsolute = true) :
    ∃ rest, p.bytes = slash :: rest ∧
      p.components = .root :: (splitSlash rest).filterMap component? := by
  have hhead : p.bytes.head? = some slash := by simpa [isAbsolute] using h
  obtain ⟨rest, hbytes⟩ := List.head?_eq_some_iff.1 hhead
  refine ⟨rest, hbytes, ?_⟩
  rw [components_of_isAbsolute h, hbytes, splitSlash_cons, if_pos rfl]
  rfl

theorem isAbsolute_of_components {p : Path} {steps : List Component}
    (h : p.components = .root :: steps) : p.isAbsolute = true := by
  have hroot : Component.root ∉ (splitSlash p.bytes).filterMap component? := by
    rw [List.mem_filterMap]
    rintro ⟨piece, -, hpiece⟩
    unfold component? at hpiece
    split at hpiece
    · cases hpiece
    · split at hpiece <;> cases hpiece
  cases habsolute : p.isAbsolute with
  | true => rfl
  | false =>
      rw [components, habsolute] at h
      simp only [Bool.false_eq_true, if_false] at h
      split at h
      · cases h
      · rw [h] at hroot
        exact absurd List.mem_cons_self hroot

theorem readable_of_mem {p : Path} {steps : List Component} (h : p.components = .root :: steps)
    {c : Component} (hc : c ∈ steps) : c.Readable := by
  rw [components_of_isAbsolute (isAbsolute_of_components h), List.cons.injEq] at h
  rw [← h.2, List.mem_filterMap] at hc
  obtain ⟨piece, hpiece, hread⟩ := hc
  have hspelling := Component.spelling_of_component? hread
  exact ⟨hspelling ▸ slash_not_mem_of_mem_splitSlash hpiece, hspelling ▸ hread⟩

/-- The path that has a slash in front of every step and nothing else. -/
def written (steps : List Component) : Path := ⟨steps.flatMap fun c => slash :: c.spelling⟩

theorem splitSlash_written {steps : List Component} (h : ∀ c ∈ steps, c.Readable) :
    splitSlash (written steps).bytes = [] :: steps.map Component.spelling := by
  have hpieces : ∀ piece ∈ steps.map Component.spelling, slash ∉ piece := by
    intro piece hpiece
    obtain ⟨c, hc, rfl⟩ := List.mem_map.1 hpiece
    exact (h c hc).1
  have hsplit := splitSlash_flatMap (List.not_mem_nil (a := slash)) hpieces
  rwa [List.nil_append, List.flatMap_map] at hsplit

theorem components_written {steps : List Component} (h : ∀ c ∈ steps, c.Readable)
    (hne : steps ≠ []) : (written steps).components = .root :: steps := by
  have habsolute : (written steps).isAbsolute = true := by
    cases steps with
    | nil => exact absurd rfl hne
    | cons c rest => simp [isAbsolute, written]
  have hread : (steps.map Component.spelling).filterMap component? = steps := by
    rw [List.filterMap_map]
    clear hne habsolute
    induction steps with
    | nil => rfl
    | cons c rest ih =>
        have hc : component? c.spelling = some c := (h c List.mem_cons_self).2
        have hrest := ih fun c' hc' => h c' (List.mem_cons_of_mem c hc')
        rw [List.filterMap_cons_some (by exact hc), hrest]
  rw [components_of_isAbsolute habsolute, splitSlash_written h]
  exact congrArg (Component.root :: ·) hread

/-- Writing the steps of a path only leaves bytes out. -/
theorem written_sublist {p : Path} {steps : List Component} (h : p.components = .root :: steps) :
    (written steps).bytes.Sublist p.bytes := by
  obtain ⟨rest, hbytes, hcomponents⟩ := exists_of_isAbsolute (isAbsolute_of_components h)
  rw [h, List.cons.injEq] at hcomponents
  rw [hbytes, ← flatMap_splitSlash, hcomponents.2, written]
  generalize splitSlash rest = pieces
  induction pieces with
  | nil => exact List.Sublist.refl _
  | cons piece pieces ih =>
      rw [List.flatMap_cons]
      cases hread : component? piece with
      | none =>
          rw [List.filterMap_cons_none hread]
          exact ih.trans (List.sublist_append_right _ _)
      | some c =>
          rw [List.filterMap_cons_some hread, List.flatMap_cons,
            Component.spelling_of_component? hread]
          exact (List.Sublist.refl _).append ih

/-- Apart from slashes and dots, the bytes of an absolute path are those of its steps. -/
theorem mem_bytes_iff {p : Path} (h : p.isAbsolute = true) {b : UInt8} (hslash : b ≠ slash)
    (hdot : b ≠ dot) : b ∈ p.bytes ↔ ∃ c ∈ p.components, b ∈ c.spelling := by
  have hpieces : b ∈ p.bytes ↔ ∃ piece ∈ splitSlash p.bytes, b ∈ piece := by
    have hmem : b ∈ slash :: p.bytes ↔ b ∈ p.bytes := by simp [hslash]
    rw [← hmem, ← flatMap_splitSlash, List.mem_flatMap]
    simp [hslash]
  rw [hpieces, components_of_isAbsolute h]
  constructor
  · rintro ⟨piece, hpiece, hb⟩
    have hread : component? piece = some (.name piece) := by
      unfold component?
      split
      · rename_i hempty
        rcases (by simpa using hempty : piece = [] ∨ piece = [dot]) with rfl | rfl
        · cases hb
        · exact absurd (List.mem_singleton.1 hb) hdot
      · split
        · rename_i hup
          rw [hup] at hb
          exact absurd (by simpa using hb) hdot
        · rfl
    exact ⟨.name piece, List.mem_cons_of_mem _ (List.mem_filterMap.2 ⟨piece, hpiece, hread⟩), hb⟩
  · rintro ⟨c, hc, hb⟩
    rcases List.mem_cons.1 hc with rfl | hc
    · exact absurd (List.mem_singleton.1 hb) hdot
    · obtain ⟨piece, hpiece, hread⟩ := List.mem_filterMap.1 hc
      rw [Component.spelling_of_component? hread] at hb
      exact ⟨piece, hpiece, hb⟩

section Join

variable {dir : Path} {name : FileName}

theorem join_of_isAbsolute (hdir : dir.isAbsolute = true) (hname : (Component.name name).Readable) :
    (dir.join name).bytes =
      if dir.bytes.getLast? = some slash then dir.bytes ++ name
      else dir.bytes ++ slash :: name := by
  obtain ⟨rest, hbytes, -⟩ := exists_of_isAbsolute hdir
  have hhead : name.head? ≠ some slash := fun h => hname.1 (List.mem_of_mem_head? h)
  have hne : dir.bytes ≠ [] := by simp [hbytes]
  simp only [join, hhead, hne, decide_false, Bool.or_self, Bool.false_eq_true, if_false]
  split <;> rfl

theorem isAbsolute_join (hdir : dir.isAbsolute = true) (hname : (Component.name name).Readable) :
    (dir.join name).isAbsolute = true := by
  obtain ⟨rest, hbytes, -⟩ := exists_of_isAbsolute hdir
  rw [isAbsolute, join_of_isAbsolute hdir hname]
  split <;> simp [hbytes]

theorem join_ne_nil (dir : Path) (hname : (Component.name name).Readable) :
    (dir.join name).bytes ≠ [] := by
  have hne : name ≠ [] := by
    rintro rfl
    exact absurd hname.2 (by decide)
  unfold join
  split
  · exact hne
  · split <;> simp [hne]

/-- The name is the last piece, and the pieces in front of it have the steps of the directory. -/
theorem splitSlash_join (dir : Path) (hname : (Component.name name).Readable) :
    ∃ front, splitSlash (dir.join name).bytes = front ++ [name] ∧
      front.filterMap component? = (splitSlash dir.bytes).filterMap component? := by
  have hpiece : splitSlash name = [name] := splitSlash_of_not_mem hname.1
  have hhead : name.head? ≠ some slash := fun h => hname.1 (List.mem_of_mem_head? h)
  unfold join
  split
  · rename_i hnone
    have hempty : dir.bytes = [] := by simpa [hhead] using hnone
    refine ⟨[], hpiece, ?_⟩
    simp [hempty, splitSlash, component?]
  · split
    · rename_i hlast
      -- a closing slash of the directory is the one in front of the name
      obtain ⟨front, hfront⟩ := List.getLast?_eq_some_iff.1 hlast
      refine ⟨splitSlash front, ?_, ?_⟩
      · rw [hfront, List.append_assoc, List.singleton_append, splitSlash_append, hpiece]
      · rw [hfront, splitSlash_append, List.filterMap_append]
        simp [splitSlash, component?]
    · refine ⟨splitSlash dir.bytes, ?_, rfl⟩
      rw [splitSlash_append, hpiece]

/-- Only the directory decides whether the path starts at the top, or with a `.`. -/
theorem isAbsolute_join_eq (dir : Path) (hname : (Component.name name).Readable) :
    (dir.join name).isAbsolute = dir.isAbsolute := by
  have hhead : name.head? ≠ some slash := fun h => hname.1 (List.mem_of_mem_head? h)
  cases hbytes : dir.bytes with
  | nil => simp [isAbsolute, join, hbytes, hhead]
  | cons b rest =>
      simp only [isAbsolute, join, hbytes, hhead, reduceCtorEq, decide_false, Bool.or_self,
        Bool.false_eq_true, if_false]
      split <;> rfl

theorem head?_splitSlash_append (bytes : List UInt8) (pieces : List (List UInt8)) :
    (splitSlash bytes ++ pieces).head? = (splitSlash bytes).head? := by
  obtain ⟨piece, rest, h⟩ := List.exists_cons_of_ne_nil (splitSlash_ne_nil bytes)
  rw [h, List.cons_append, List.head?_cons, List.head?_cons]

theorem head?_splitSlash_join (dir : Path) (hname : (Component.name name).Readable) :
    (splitSlash (dir.join name).bytes).head? = some [dot] ↔
      (splitSlash dir.bytes).head? = some [dot] := by
  have hpiece : splitSlash name = [name] := splitSlash_of_not_mem hname.1
  have hhead : name.head? ≠ some slash := fun h => hname.1 (List.mem_of_mem_head? h)
  have hdot : name ≠ [dot] := by
    rintro rfl
    exact absurd hname.2 (by decide)
  unfold join
  split
  · rename_i hnone
    have hempty : dir.bytes = [] := by simpa [hhead] using hnone
    simp [hpiece, hempty, hdot, splitSlash]
  · split
    · rename_i hlast
      obtain ⟨front, hfront⟩ := List.getLast?_eq_some_iff.1 hlast
      rw [hfront, List.append_assoc, List.singleton_append, splitSlash_append, splitSlash_append,
        head?_splitSlash_append, head?_splitSlash_append]
    · rw [splitSlash_append, head?_splitSlash_append]

/-- The name is one more step behind those of the directory. -/
theorem components_join_name (dir : Path) (hname : (Component.name name).Readable) :
    (dir.join name).components = dir.components ++ [.name name] := by
  obtain ⟨front, hsplit, hfront⟩ := splitSlash_join dir hname
  have hread : [name].filterMap component? = [.name name] := List.filterMap_cons_some hname.2
  have hsteps : (splitSlash (dir.join name).bytes).filterMap component? =
      (splitSlash dir.bytes).filterMap component? ++ [.name name] := by
    rw [hsplit, List.filterMap_append, hfront, hread]
  simp only [components, isAbsolute_join_eq dir hname, head?_splitSlash_join dir hname, hsteps]
  split
  · rfl
  · split <;> rfl

/-- The path of a name inside any directory leads to that name. -/
theorem fileName?_join (dir : Path) (hname : (Component.name name).Readable) :
    (dir.join name).fileName? = some name := by
  obtain ⟨front, hsplit, -⟩ := splitSlash_join dir hname
  have hread : [name].filterMap component? = [.name name] := List.filterMap_cons_some hname.2
  have hlast : (dir.join name).components.getLast? = some (.name name) := by
    simp only [components, hsplit, List.filterMap_append, hread]
    split
    · rw [← List.cons_append, List.getLast?_concat]
    · split
      · rw [← List.cons_append, List.getLast?_concat]
      · exact List.getLast?_concat
  rw [fileName?, hlast]

/-- Below a directory stands its path, with a slash between the two or without. -/
theorem bytes_join (dir : Path) (hname : (Component.name name).Readable) :
    (dir.join name).bytes = dir.bytes ++ name ∨
      (dir.join name).bytes = dir.bytes ++ slash :: name := by
  have hhead : name.head? ≠ some slash := fun h => hname.1 (List.mem_of_mem_head? h)
  unfold join
  split
  · rename_i hnone
    have hempty : dir.bytes = [] := by simpa [hhead] using hnone
    rw [hempty]
    exact .inl rfl
  · split
    · exact .inl rfl
    · exact .inr rfl

theorem length_join_le (dir : Path) (hname : (Component.name name).Readable) :
    (dir.join name).bytes.length ≤ dir.bytes.length + (name.length + 1) := by
  rcases bytes_join dir hname with hbytes | hbytes
  · rw [hbytes, List.length_append]
    omega
  · rw [hbytes]
    exact Nat.le_of_eq List.length_append

theorem bytes_sublist_join (dir : Path) (hname : (Component.name name).Readable) :
    dir.bytes.Sublist (dir.join name).bytes := by
  rcases bytes_join dir hname with hbytes | hbytes <;>
    exact hbytes ▸ List.sublist_append_left _ _

theorem mem_bytes_join {b : UInt8} (hname : (Component.name name).Readable)
    (hb : b ∈ (dir.join name).bytes) : b ∈ dir.bytes ∨ b = slash ∨ b ∈ name := by
  rcases bytes_join dir hname with hbytes | hbytes
  · rw [hbytes] at hb
    exact (List.mem_append.1 hb).imp_right .inr
  · rw [hbytes] at hb
    exact (List.mem_append.1 hb).imp_right List.mem_cons.1

end Join

/-- A path whose last piece is a name does not ask for a directory. -/
theorem asksDirectory_of_getLast? {p : Path} {name : FileName}
    (hname : (Component.name name).Readable) (h : (splitSlash p.bytes).getLast? = some name) :
    p.asksDirectory = false := by
  have hread : component? name = some (.name name) := hname.2
  have hne : name ≠ [] ∧ name ≠ [dot] := by
    unfold component? at hread
    split at hread
    · cases hread
    · rename_i h
      simpa using h
  simp [asksDirectory, h, hne]

theorem steps_join (dir : Path) {name : FileName} (hname : (Component.name name).Readable) :
    (dir.join name).steps = dir.components ++ [.name name] := by
  obtain ⟨front, hsplit, -⟩ := splitSlash_join dir hname
  have hlast : (splitSlash (dir.join name).bytes).getLast? = some name := by
    rw [hsplit, List.getLast?_concat]
  rw [steps, asksDirectory_of_getLast? hname hlast, components_join_name dir hname]
  rfl

section Descent

variable {dir : Path} {names : List FileName}

theorem isAbsolute_foldl_join (hdir : dir.isAbsolute = true)
    (hnames : ∀ name ∈ names, (Component.name name).Readable) :
    (names.foldl join dir).isAbsolute = true := by
  induction names generalizing dir with
  | nil => exact hdir
  | cons name rest ih =>
      exact ih (isAbsolute_join hdir (hnames name List.mem_cons_self)) fun name' hname' =>
        hnames name' (List.mem_cons_of_mem name hname')

theorem components_foldl_join (dir : Path)
    (hnames : ∀ name ∈ names, (Component.name name).Readable) :
    (names.foldl join dir).components = dir.components ++ names.map .name := by
  induction names generalizing dir with
  | nil => simp
  | cons name rest ih =>
      have hname := hnames name List.mem_cons_self
      rw [List.foldl_cons, ih (dir.join name) fun name' hname' =>
          hnames name' (List.mem_cons_of_mem name hname'),
        components_join_name dir hname, List.append_assoc, List.map_cons, List.singleton_append]

/-- Going down does not end in a slash. -/
theorem steps_foldl_join (dir : Path)
    (hnames : ∀ name ∈ names, (Component.name name).Readable) (hne : names ≠ []) :
    (names.foldl join dir).steps = (names.foldl join dir).components := by
  have hlast : names = names.dropLast ++ [names.getLast hne] :=
    (List.dropLast_concat_getLast hne).symm
  have hname := hnames _ (names.getLast_mem hne)
  obtain ⟨front, hsplit, -⟩ := splitSlash_join (names.dropLast.foldl join dir) hname
  have hpath : names.foldl join dir = (names.dropLast.foldl join dir).join (names.getLast hne) := by
    conv => lhs; rw [hlast]
    rw [List.foldl_append, List.foldl_cons, List.foldl_nil]
  have hasks : (names.foldl join dir).asksDirectory = false := by
    apply asksDirectory_of_getLast? hname
    rw [hpath, hsplit, List.getLast?_concat]
  rw [steps, hasks]
  rfl

theorem length_foldl_join_le {limit : Nat} (dir : Path)
    (hnames : ∀ name ∈ names, (Component.name name).Readable)
    (hlimit : ∀ name ∈ names, name.length ≤ limit) :
    (names.foldl join dir).bytes.length ≤ dir.bytes.length + names.length * (limit + 1) := by
  induction names generalizing dir with
  | nil => simp
  | cons name rest ih =>
      have hname := hnames name List.mem_cons_self
      have hrest := ih (dir.join name)
        (fun name' hname' => hnames name' (List.mem_cons_of_mem name hname'))
        (fun name' hname' => hlimit name' (List.mem_cons_of_mem name hname'))
      have hjoin := length_join_le dir hname
      have hlength := hlimit name List.mem_cons_self
      rw [List.foldl_cons, List.length_cons, Nat.succ_mul]
      omega

theorem bytes_sublist_foldl_join (dir : Path)
    (hnames : ∀ name ∈ names, (Component.name name).Readable) :
    dir.bytes.Sublist (names.foldl join dir).bytes := by
  induction names generalizing dir with
  | nil => exact .refl _
  | cons name rest ih =>
      refine (bytes_sublist_join dir (hnames name List.mem_cons_self)).trans (ih _ ?_)
      exact fun name' hname' => hnames name' (List.mem_cons_of_mem name hname')

theorem mem_bytes_foldl_join {b : UInt8}
    (hnames : ∀ name ∈ names, (Component.name name).Readable)
    (hb : b ∈ (names.foldl join dir).bytes) :
    b ∈ dir.bytes ∨ b = slash ∨ ∃ name ∈ names, b ∈ name := by
  induction names generalizing dir with
  | nil => exact .inl hb
  | cons name rest ih =>
      have hname := hnames name List.mem_cons_self
      rcases ih (fun name' hname' => hnames name' (List.mem_cons_of_mem name hname')) hb with
        hjoin | hslash | ⟨name', hname', hb'⟩
      · rcases mem_bytes_join hname hjoin with hb | hb | hb
        · exact .inl hb
        · exact .inr (.inl hb)
        · exact .inr (.inr ⟨name, List.mem_cons_self, hb⟩)
      · exact .inr (.inl hslash)
      · exact .inr (.inr ⟨name', List.mem_cons_of_mem name hname', hb'⟩)

end Descent

section Source

variable {steps : List Component} {name : FileName}

theorem steps_written (h : ∀ c ∈ steps, c.Readable) (hname : steps.getLast? = some (.name name)) :
    (written steps).steps = .root :: steps := by
  have hne : steps ≠ [] := by
    rintro rfl
    cases hname
  have hasks : (written steps).asksDirectory = false := by
    apply asksDirectory_of_getLast? (h _ (List.mem_of_getLast? hname))
    rw [splitSlash_written h, List.getLast?_cons, List.getLast?_map, hname]
    rfl
  rw [Path.steps, hasks]
  exact components_written h hne

theorem getLast?_written {last : UInt8} (hname : steps.getLast? = some (.name name))
    (hlast : name.getLast? = some last) : (written steps).bytes.getLast? = some last := by
  obtain ⟨front, rfl⟩ := List.getLast?_eq_some_iff.1 hname
  have hbytes : (written (front ++ [.name name])).bytes =
      (written front).bytes ++ slash :: name := by
    simp [written, Component.spelling]
  rw [hbytes, List.getLast?_append, List.getLast?_cons, hlast]
  rfl

/-- A name ends like its extension. -/
theorem getLast?_of_extensionOf? {ext : List UInt8} {last : UInt8}
    (h : extensionOf? name = some ext) (hlast : ext.getLast? = some last) :
    name.getLast? = some last := by
  unfold extensionOf? at h
  simp only at h
  split at h
  · obtain rfl := Option.some.inj h
    rw [List.getLast?_reverse] at hlast
    rw [← List.head?_reverse]
    cases hreverse : name.reverse with
    | nil =>
        rw [hreverse] at hlast
        cases hlast
    | cons b rest =>
        rw [hreverse, List.takeWhile_cons] at hlast
        split at hlast
        · exact hlast
        · cases hlast
  · cases h

/-- A source path ends in a name, and not in a drive mark. -/
theorem exists_last_of_isSource {p : Path} (h : p.isSource = true) :
    ∃ name last, p.components.getLast? = some (.name name) ∧ name.getLast? = some last ∧
      last ≠ 0x3A ∧ last ≠ 0x7C := by
  have hextensions : ∀ ext ∈ sourceExtensions.map Text.encodeUtf8,
      ext.getLast?.any (fun b => b != 0x3A && b != 0x7C) = true := by
    decide +kernel
  unfold isSource at h
  split at h
  · rename_i ext hext
    obtain ⟨name, hname, hof⟩ := Option.bind_eq_some_iff.1 hext
    have hmark := hextensions ext (List.contains_iff_mem.1 h)
    cases hlast : ext.getLast? with
    | none =>
        rw [hlast] at hmark
        cases hmark
    | some last =>
        rw [hlast, Option.any_some, Bool.and_eq_true, bne_iff_ne, bne_iff_ne] at hmark
        refine ⟨name, last, ?_, getLast?_of_extensionOf? hof hlast, hmark⟩
        unfold fileName? at hname
        split at hname
        · rename_i bytes hcomponents
          cases hname
          exact hcomponents
        · cases hname
  · cases h

end Source

theorem isSource_congr {p q : Path} (h : p.components = q.components) :
    p.isSource = q.isSource := by
  rw [isSource, isSource, extension?, extension?, fileName?, fileName?, h]

theorem startsWith_congr {p q base base' : Path} (h : p.components = q.components)
    (hbase : base.components = base'.components) : p.startsWith base = q.startsWith base' := by
  rw [startsWith, startsWith, h, hbase]

end Path

end PipelineServer
