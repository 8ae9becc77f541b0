import Mathlib.Data.Nat.Find
import Mathlib.Order.Bounds.Basic
import PipelineServer.Proofs.Source.Blocks

/-!
Blocks by the depth of the braces alone.

A declaration's block begins with the first brace of its line that opens the level right above the
one at which the line starts, and ends with the first brace behind it that leaves that level. This
needs no stack: it is said of a list of braces by their indices. The lemmas say what one more brace
does to a block that has not begun, one that is open and one that has ended.
-/

namespace PipelineServer.Source

/-- The depth behind the first `n` of some braces. -/
def depthBehind (braces : List (Spot × Bool)) (n : Nat) : Nat := (braces.take n).foldl deepen 0

/-- The depth at the start of a line. -/
def depthAbove (braces : List (Spot × Bool)) (line : Nat) : Nat :=
  (braces.filter fun brace => brace.1.line < line).foldl deepen 0

/-- The brace with the index `n` is an opening one of the line, and takes the depth to one more
than at the start of the line. -/
def OpensAt (braces : List (Spot × Bool)) (line n : Nat) : Prop :=
  ∃ spot, braces[n]? = some (spot, true) ∧ spot.line = line ∧
    depthBehind braces (n + 1) = depthAbove braces line + 1

/-- The brace with the index `m` is a closing one behind the brace with the index `n`, and takes the
depth below the one there. -/
def LeavesAt (braces : List (Spot × Bool)) (n m : Nat) : Prop :=
  n < m ∧ ∃ spot, braces[m]? = some (spot, false) ∧
    depthBehind braces (m + 1) < depthBehind braces (n + 1)

instance (braces : List (Spot × Bool)) (line n : Nat) : Decidable (OpensAt braces line n) :=
  decidable_of_iff (∃ brace ∈ braces[n]?, brace.2 = true ∧ brace.1.line = line ∧
    depthBehind braces (n + 1) = depthAbove braces line + 1) <| by
  constructor
  · rintro ⟨⟨spot, _⟩, hget, rfl, hspec⟩
    exact ⟨spot, hget, hspec⟩
  · rintro ⟨spot, hget, hspec⟩
    exact ⟨(spot, true), hget, rfl, hspec⟩

instance (braces : List (Spot × Bool)) (n m : Nat) : Decidable (LeavesAt braces n m) :=
  decidable_of_iff (n < m ∧ ∃ brace ∈ braces[m]?, brace.2 = false ∧
    depthBehind braces (m + 1) < depthBehind braces (n + 1)) <| by
  apply and_congr_right
  intro hlater
  constructor
  · rintro ⟨⟨spot, _⟩, hget, rfl, hspec⟩
    exact ⟨spot, hget, hspec⟩
  · rintro ⟨spot, hget, hspec⟩
    exact ⟨(spot, false), hget, rfl, hspec⟩

/-- The block of a declaration on the line begins with the brace with the index `n`. -/
def BlockOpens (braces : List (Spot × Bool)) (line n : Nat) : Prop :=
  IsLeast {n | OpensAt braces line n} n

/-- The block that begins with the brace with the index `n` ends with the one with the index `m`. -/
def BlockCloses (braces : List (Spot × Bool)) (n m : Nat) : Prop :=
  IsLeast {m | LeavesAt braces n m} m

/-- The block of a declaration on the line ends with the brace with the index `m`. -/
def BlockEnds (braces : List (Spot × Bool)) (line m : Nat) : Prop :=
  ∃ n, BlockOpens braces line n ∧ BlockCloses braces n m

/-- No block of a declaration on the line has begun. -/
def Unopened (braces : List (Spot × Bool)) (line : Nat) : Prop := ∀ n, ¬ OpensAt braces line n

/-- The block of a declaration on the line has begun, at a depth, and has not ended. -/
def BlockOpen (braces : List (Spot × Bool)) (line depth : Nat) : Prop :=
  ∃ n, BlockOpens braces line n ∧ depthBehind braces (n + 1) = depth ∧ ∀ m, ¬ LeavesAt braces n m

/-- The block of a declaration on the line `own` has begun above the line `line` and has not ended
there. -/
def OpenAt (braces : List (Spot × Bool)) (own line : Nat) : Prop :=
  own < line ∧ ∃ n, BlockOpens braces own n ∧
    ∀ m brace, BlockCloses braces n m → braces[m]? = some brace → line ≤ brace.1.line

variable {braces more : List (Spot × Bool)} {brace : Spot × Bool} {line n m depth : Nat}

theorem lt_length_of_getElem?_eq_some {x : Spot × Bool} (h : braces[n]? = some x) :
    n < braces.length := (List.getElem?_eq_some_iff.mp h).1

theorem depthBehind_append (hknown : n ≤ braces.length) (more : List (Spot × Bool)) :
    depthBehind (braces ++ more) n = depthBehind braces n := by
  rw [depthBehind, List.take_append_of_le_length hknown, depthBehind]

theorem depthBehind_length (braces : List (Spot × Bool)) :
    depthBehind braces braces.length = braces.foldl deepen 0 := by
  rw [depthBehind, List.take_length]

theorem depthBehind_succ (hget : braces[n]? = some brace) :
    depthBehind braces (n + 1) = deepen (depthBehind braces n) brace := by
  rw [depthBehind, List.take_add_one, hget, Option.toList_some, List.foldl_append, depthBehind]
  rfl

theorem depthAbove_append (honward : ∀ brace ∈ more, line ≤ brace.1.line) :
    depthAbove (braces ++ more) line = depthAbove braces line := by
  have hnone : more.filter (fun brace => brace.1.line < line) = [] := by
    rw [List.filter_eq_nil_iff]
    intro brace hbrace
    simpa using honward brace hbrace
  rw [depthAbove, List.filter_append, hnone, List.append_nil, depthAbove]

theorem opensAt_append_iff (hknown : n < braces.length)
    (honward : ∀ brace ∈ more, line ≤ brace.1.line) :
    OpensAt (braces ++ more) line n ↔ OpensAt braces line n := by
  rw [OpensAt, List.getElem?_append_left hknown, depthBehind_append hknown,
    depthAbove_append honward, OpensAt]

theorem leavesAt_append_iff (hknown : m < braces.length) :
    LeavesAt (braces ++ more) n m ↔ LeavesAt braces n m := by
  apply and_congr_right
  intro hlater
  rw [List.getElem?_append_left hknown, depthBehind_append hknown,
    depthBehind_append (Nat.lt_of_lt_of_le hlater hknown.le)]

theorem BlockOpens.lt_length (hopens : BlockOpens braces line n) : n < braces.length := by
  obtain ⟨⟨spot, hget, -⟩, -⟩ := hopens
  exact lt_length_of_getElem?_eq_some hget

theorem BlockCloses.lt_length (hcloses : BlockCloses braces n m) : m < braces.length := by
  obtain ⟨⟨-, spot, hget, -⟩, -⟩ := hcloses
  exact lt_length_of_getElem?_eq_some hget

theorem isLeast_iff {P : Nat → Prop} : IsLeast {k | P k} n ↔ P n ∧ ∀ k < n, ¬ P k := by
  apply and_congr_right
  intro _
  exact ⟨fun hleast k hearly hk => (hleast hk).not_gt hearly,
    fun hnone k hk => not_lt.mp fun hearly => hnone k hearly hk⟩

/-- The first index with a property is settled by the indices in front of a bound. -/
theorem isLeast_congr_below {P Q : Nat → Prop} {bound : Nat} (hknown : n < bound)
    (hagree : ∀ k < bound, (P k ↔ Q k)) : IsLeast {k | P k} n ↔ IsLeast {k | Q k} n := by
  have hleast : ∀ {P Q : Nat → Prop}, (∀ k < bound, (P k ↔ Q k)) → IsLeast {k | P k} n →
      IsLeast {k | Q k} n := by
    rintro P Q hagree ⟨hhas, hleast⟩
    refine ⟨(hagree n hknown).mp hhas, fun k hk => ?_⟩
    rcases Nat.lt_or_ge k bound with hearly | hlate
    · exact hleast ((hagree k hearly).mpr hk)
    · exact hknown.le.trans hlate
  exact ⟨hleast hagree, hleast fun k hearly => (hagree k hearly).symm⟩

/-- Further braces change nothing about where a block begins. -/
theorem blockOpens_append_iff (hknown : n < braces.length)
    (honward : ∀ brace ∈ more, line ≤ brace.1.line) :
    BlockOpens (braces ++ more) line n ↔ BlockOpens braces line n :=
  isLeast_congr_below hknown fun _ hearly => opensAt_append_iff hearly honward

theorem blockCloses_append_iff (hknown : m < braces.length) :
    BlockCloses (braces ++ more) n m ↔ BlockCloses braces n m :=
  isLeast_congr_below hknown fun _ hearly => leavesAt_append_iff hearly

/-- A block that is left is closed, by the first brace that leaves it. -/
theorem LeavesAt.exists_blockCloses (hleaves : LeavesAt braces n m) :
    ∃ k, k ≤ m ∧ BlockCloses braces n k := by
  classical
  have hsome : ∃ k, LeavesAt braces n k := ⟨m, hleaves⟩
  exact ⟨Nat.find hsome, Nat.find_min' hsome hleaves, Nat.find_spec hsome,
    fun k hk => Nat.find_min' hsome hk⟩

theorem BlockEnds.lt_length (hends : BlockEnds braces line m) : m < braces.length := by
  obtain ⟨n, -, hcloses⟩ := hends
  exact hcloses.lt_length

theorem BlockEnds.unique {k : Nat} (hends : BlockEnds braces line m)
    (hends' : BlockEnds braces line k) : m = k := by
  obtain ⟨n, hopens, hcloses⟩ := hends
  obtain ⟨n', hopens', hcloses'⟩ := hends'
  obtain rfl := hopens.unique hopens'
  exact hcloses.unique hcloses'

theorem BlockOpen.not_blockEnds (hopen : BlockOpen braces line depth) :
    ¬ BlockEnds braces line m := by
  rintro ⟨n, hopens, hcloses⟩
  obtain ⟨n', hopens', -, hstays⟩ := hopen
  obtain rfl := hopens.unique hopens'
  exact hstays m hcloses.1

/-- At the start of a line only the braces above it count. -/
theorem openAt_append_iff {own : Nat} (habove : ∀ brace ∈ braces, brace.1.line < line)
    (hbelow : ∀ brace ∈ more, line ≤ brace.1.line) (hearlier : own < line) :
    OpenAt (braces ++ more) own line ↔ ∃ depth, BlockOpen braces own depth := by
  have honward : ∀ brace ∈ more, own ≤ brace.1.line := fun brace hbrace =>
    hearlier.le.trans (hbelow brace hbrace)
  -- a brace that stands above the line is one of the first
  have hknown : ∀ {k : Nat} {brace : Spot × Bool}, (braces ++ more)[k]? = some brace →
      brace.1.line < line → k < braces.length := by
    intro k brace hget hhigh
    by_contra hlate
    rw [List.getElem?_append_right (not_lt.mp hlate)] at hget
    exact absurd (hbelow brace (List.mem_of_getElem? hget)) (not_le.mpr hhigh)
  constructor
  · rintro ⟨-, n, hopens, hstays⟩
    obtain ⟨spot, hget, hhere, -⟩ := hopens.1
    have hearly := hknown hget (hhere.trans_lt hearlier)
    refine ⟨_, n, (blockOpens_append_iff hearly honward).mp hopens, rfl, fun m hleaves => ?_⟩
    obtain ⟨k, -, hcloses⟩ := hleaves.exists_blockCloses
    obtain ⟨-, closer, hcloser, -⟩ := hcloses.1
    have hlater := hstays k (closer, false) ((blockCloses_append_iff hcloses.lt_length).mpr hcloses)
      (by rw [List.getElem?_append_left hcloses.lt_length, hcloser])
    exact absurd hlater (not_le.mpr (habove _ (List.mem_of_getElem? hcloser)))
  · rintro ⟨depth, n, hopens, -, hstays⟩
    refine ⟨hearlier, n, (blockOpens_append_iff hopens.lt_length honward).mpr hopens, ?_⟩
    intro m brace hcloses hget
    by_contra hhigh
    exact hstays m ((blockCloses_append_iff (hknown hget (not_le.mp hhigh))).mp hcloses).1

/-! ### One more brace -/

theorem Unopened.not_blockEnds (hunopened : Unopened braces line) : ¬ BlockEnds braces line m := by
  rintro ⟨n, hopens, -⟩
  exact hunopened n hopens.1

theorem opensAt_length_iff (honward : line ≤ brace.1.line) :
    OpensAt (braces ++ [brace]) line braces.length ↔
      brace.2 = true ∧ brace.1.line = line ∧ braces.foldl deepen 0 = depthAbove braces line := by
  have hget : (braces ++ [brace])[braces.length]? = some brace := List.getElem?_concat_length
  rw [OpensAt, hget, depthBehind_succ hget, depthBehind_append le_rfl, depthBehind_length,
    depthAbove_append (by simpa using honward)]
  obtain ⟨spot, opens⟩ := brace
  cases opens <;> simp [deepen]

theorem leavesAt_length_iff (hknown : n < braces.length) :
    LeavesAt (braces ++ [brace]) n braces.length ↔
      brace.2 = false ∧ braces.foldl deepen 0 - 1 < depthBehind braces (n + 1) := by
  have hget : (braces ++ [brace])[braces.length]? = some brace := List.getElem?_concat_length
  rw [LeavesAt, hget, depthBehind_succ hget, depthBehind_append le_rfl, depthBehind_length,
    depthBehind_append hknown]
  obtain ⟨spot, opens⟩ := brace
  cases opens <;> simp [deepen, hknown]

section Concat

variable (honward : line ≤ brace.1.line)
include honward

theorem Unopened.concat (hunopened : Unopened braces line)
    (hother : ¬ (brace.2 = true ∧ brace.1.line = line ∧
      braces.foldl deepen 0 = depthAbove braces line)) : Unopened (braces ++ [brace]) line := by
  intro n hopens
  obtain ⟨spot, hget, -⟩ := id hopens
  have hknown := lt_length_of_getElem?_eq_some hget
  rw [List.length_append, List.length_singleton] at hknown
  rcases Nat.lt_succ_iff_lt_or_eq.mp hknown with hearly | rfl
  · exact hunopened n ((opensAt_append_iff hearly (by simpa using honward)).mp hopens)
  · exact hother ((opensAt_length_iff honward).mp hopens)

theorem Unopened.opened (hunopened : Unopened braces line) (hopens : brace.2 = true)
    (hhere : brace.1.line = line) (hlevel : braces.foldl deepen 0 = depthAbove braces line) :
    BlockOpen (braces ++ [brace]) line (braces.foldl deepen 0 + 1) := by
  have hget : (braces ++ [brace])[braces.length]? = some brace := List.getElem?_concat_length
  refine ⟨braces.length, ⟨(opensAt_length_iff honward).mpr ⟨hopens, hhere, hlevel⟩, ?_⟩, ?_, ?_⟩
  · intro k hk
    by_contra hearly
    rw [not_le] at hearly
    exact hunopened k ((opensAt_append_iff hearly (by simpa using honward)).mp hk)
  · rw [depthBehind_succ hget, depthBehind_append le_rfl, depthBehind_length, deepen, if_pos hopens]
  · rintro m ⟨hlater, spot, hget, -⟩
    have hknown := lt_length_of_getElem?_eq_some hget
    rw [List.length_append, List.length_singleton] at hknown
    omega

theorem BlockOpen.concat (hopen : BlockOpen braces line depth)
    (hstays : brace.2 = false → depth ≤ braces.foldl deepen 0 - 1) :
    BlockOpen (braces ++ [brace]) line depth := by
  obtain ⟨n, hopens, rfl, hinside⟩ := hopen
  have hknown := hopens.lt_length
  refine ⟨n, (blockOpens_append_iff hknown (by simpa using honward)).mpr hopens,
    depthBehind_append hknown _, ?_⟩
  intro m hleaves
  obtain ⟨-, spot, hget, -⟩ := id hleaves
  have hthere := lt_length_of_getElem?_eq_some hget
  rw [List.length_append, List.length_singleton] at hthere
  rcases Nat.lt_succ_iff_lt_or_eq.mp hthere with hearly | rfl
  · exact hinside m ((leavesAt_append_iff hearly).mp hleaves)
  · obtain ⟨hclosing, hbelow⟩ := (leavesAt_length_iff hknown).mp hleaves
    exact absurd (hstays hclosing) (not_le.mpr hbelow)

theorem BlockOpen.closed (hopen : BlockOpen braces line depth) (hclosing : brace.2 = false)
    (hbelow : braces.foldl deepen 0 - 1 < depth) :
    BlockEnds (braces ++ [brace]) line braces.length := by
  obtain ⟨n, hopens, rfl, hinside⟩ := hopen
  have hknown := hopens.lt_length
  refine ⟨n, (blockOpens_append_iff hknown (by simpa using honward)).mpr hopens,
    (leavesAt_length_iff hknown).mpr ⟨hclosing, hbelow⟩, ?_⟩
  intro k hk
  by_contra hearly
  rw [not_le] at hearly
  exact hinside k ((leavesAt_append_iff hearly).mp hk)

theorem BlockEnds.concat (hends : BlockEnds braces line m) :
    BlockEnds (braces ++ [brace]) line m := by
  obtain ⟨n, hopens, hcloses⟩ := hends
  exact ⟨n, (blockOpens_append_iff hopens.lt_length (by simpa using honward)).mpr hopens,
    (blockCloses_append_iff hcloses.lt_length).mpr hcloses⟩

end Concat

/-! ### Blocks inside blocks -/

/-- The depth does not fall below that of a block before the block is left. -/
theorem depth_le_of_stays {k : Nat} (hstays : ∀ m < k, ¬ LeavesAt braces n m) (hlater : n < k)
    (hknown : k ≤ braces.length) : depthBehind braces (n + 1) ≤ depthBehind braces k := by
  induction k with
  | zero => omega
  | succ k ih =>
    rcases Nat.lt_succ_iff_lt_or_eq.mp hlater with hlater | rfl
    · have hbefore := ih (fun m hm => hstays m (hm.trans (Nat.lt_succ_self k))) hlater
        (Nat.le_of_succ_le hknown)
      have hget : braces[k]? = some braces[k] := List.getElem?_eq_getElem hknown
      by_contra hfallen
      rw [not_le] at hfallen
      have hclosing : braces[k].2 = false := by
        by_contra hopens
        rw [depthBehind_succ hget, deepen, if_pos (by simpa using hopens)] at hfallen
        omega
      exact hstays k (Nat.lt_succ_self k)
        ⟨hlater, braces[k].1, by rw [hget, ← hclosing], hfallen⟩
    · exact le_rfl

/-- A block that begins inside another one ends before it. -/
theorem BlockCloses.not_of_inside {n' : Nat} {spot : Spot}
    (hopens : braces[n']? = some (spot, true)) (hinside : n < n')
    (hcloses : BlockCloses braces n m) : ¬ BlockCloses braces n' m := by
  intro hcloses'
  obtain ⟨⟨-, closer, hget, hbelow⟩, hleast⟩ := hcloses
  have hknown := lt_length_of_getElem?_eq_some hget
  have hwithin : n' < m := hcloses'.1.1
  have houter : depthBehind braces (n + 1) ≤ depthBehind braces n' :=
    depth_le_of_stays (fun k hk hleaves => by have := hleast hleaves; omega) hinside (by omega)
  have hinner : depthBehind braces (n' + 1) ≤ depthBehind braces m :=
    depth_le_of_stays (fun k hk hleaves => by have := hcloses'.2 hleaves; omega) hwithin (by omega)
  have hup : depthBehind braces (n' + 1) = depthBehind braces n' + 1 := depthBehind_succ hopens
  have hdown : depthBehind braces (m + 1) = depthBehind braces m - 1 := depthBehind_succ hget
  omega

/-- One brace ends at most one block. -/
theorem BlockEnds.line_unique {line' : Nat} (hends : BlockEnds braces line m)
    (hends' : BlockEnds braces line' m) : line = line' := by
  obtain ⟨n, ⟨⟨spot, hget, hhere, -⟩, -⟩, hcloses⟩ := hends
  obtain ⟨n', ⟨⟨spot', hget', hhere', -⟩, -⟩, hcloses'⟩ := hends'
  rcases Nat.lt_trichotomy n n' with hinside | rfl | hinside
  · exact absurd hcloses' (hcloses.not_of_inside hget' hinside)
  · cases hget.symm.trans hget'
    exact hhere.symm.trans hhere'
  · exact absurd hcloses (hcloses'.not_of_inside hget hinside)

end PipelineServer.Source
