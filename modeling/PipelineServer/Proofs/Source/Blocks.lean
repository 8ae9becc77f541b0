import Mathlib.Data.List.Basic
import PipelineServer.Source.Extract

/-!
How the depth, the declarations and the blocks develop while a text is read.

The depth goes up and down with the braces of the lines. A brace moves the end of the declarations
whose blocks it closes and touches nothing else. The owners of the open blocks decrease from the
innermost outwards, so a declaration that was made after the innermost owner is settled: no later
brace moves its end again. Their depths decrease as well, so a closing brace ends at most the
innermost block, and outside all braces no block is open (`Reading.Stacked`).
-/

namespace PipelineServer

/-- What stays when the end of a declaration moves. -/
def Declaration.anchor (d : Declaration) : Declaration :=
  { d with span := ⟨d.span.start, d.span.start⟩ }

namespace Source

/-- The braces of lines, each line for itself; `line` is the number of the first. -/
def numberedBraces (line : Nat) : List (List Char) → List (Spot × Bool)
  | [] => []
  | text :: rest =>
      (braces text).map (fun brace => (⟨line, brace.column⟩, brace.opens)) ++
        numberedBraces (line + 1) rest

/-- The braces that declarations are read by. -/
def lineBraces (text : List Char) : List (Spot × Bool) := numberedBraces 1 (Text.lines text)

/-- The depth behind one more brace; a closing brace without a partner leaves it at zero. -/
def deepen (depth : Nat) (brace : Spot × Bool) : Nat := if brace.2 then depth + 1 else depth - 1

namespace Reading

/-- The declarations without their ends. -/
def anchors (r : Reading) : List Declaration := r.declarations.map Declaration.anchor

theorem getElem?_close (stop : Spot) (ds : List Declaration) (block : Block) (j : Nat) :
    (close stop ds block)[j]? =
      if block.owner = j then ds[j]?.map fun d => { d with span := ⟨d.span.start, stop⟩ }
      else ds[j]? := by
  rw [close, List.getElem?_modify]
  split
  · rfl
  · simp

@[simp]
theorem length_close (stop : Spot) (ds : List Declaration) (block : Block) :
    (close stop ds block).length = ds.length :=
  List.length_modify ..

theorem map_anchor_close (stop : Spot) (ds : List Declaration) (block : Block) :
    (close stop ds block).map Declaration.anchor = ds.map Declaration.anchor := by
  apply List.ext_getElem?
  intro j
  rw [List.getElem?_map, List.getElem?_map, getElem?_close]
  split
  · rw [Option.map_map]
    rfl
  · rfl

@[simp]
theorem length_foldl_close (stop : Spot) (blocks : List Block) (ds : List Declaration) :
    (blocks.foldl (close stop) ds).length = ds.length := by
  induction blocks generalizing ds with
  | nil => rfl
  | cons block rest ih => rw [List.foldl_cons, ih, length_close]

theorem map_anchor_foldl_close (stop : Spot) (blocks : List Block) (ds : List Declaration) :
    (blocks.foldl (close stop) ds).map Declaration.anchor = ds.map Declaration.anchor := by
  induction blocks generalizing ds with
  | nil => rfl
  | cons block rest ih => rw [List.foldl_cons, ih, map_anchor_close]

/-- Closing blocks leaves the declarations that own none of them. -/
theorem getElem?_foldl_close_of_not_owner {stop : Spot} {blocks : List Block} {j : Nat}
    (ds : List Declaration) (h : ∀ block ∈ blocks, block.owner ≠ j) :
    (blocks.foldl (close stop) ds)[j]? = ds[j]? := by
  induction blocks generalizing ds with
  | nil => rfl
  | cons block rest ih =>
    rw [List.foldl_cons, ih _ fun b hb => h b (List.mem_cons_of_mem _ hb), getElem?_close,
      if_neg (h block List.mem_cons_self)]

/-- A declaration ends where it did before some blocks were closed, or at the closing brace. -/
theorem mem_foldl_close {stop : Spot} {blocks : List Block} {ds : List Declaration}
    {d : Declaration} (h : d ∈ blocks.foldl (close stop) ds) :
    ∃ old ∈ ds, d = old ∨ d = { old with span := ⟨old.span.start, stop⟩ } := by
  induction blocks generalizing ds with
  | nil => exact ⟨d, h, .inl rfl⟩
  | cons block rest ih =>
    obtain ⟨mid, hmid, hd⟩ := ih h
    obtain ⟨j, hj⟩ := List.mem_iff_getElem?.mp hmid
    rw [getElem?_close] at hj
    split at hj
    · obtain ⟨old, hold, rfl⟩ := Option.map_eq_some_iff.mp hj
      refine ⟨old, List.mem_of_getElem? hold, .inr ?_⟩
      rcases hd with rfl | rfl <;> rfl
    · exact ⟨mid, List.mem_of_getElem? hj, hd⟩

/-! ### One brace -/

/-- The block of the declaration that waits is opened at the depth of its line, and no other. -/
theorem openBrace_cases (base : Nat) (r : Reading) (owner? : Option Nat) :
    (∃ owner, owner? = some owner ∧ r.depth = base ∧ openBrace base r owner? =
      (⟨r.declarations, ⟨owner, r.depth + 1⟩ :: r.blocks, r.depth + 1⟩, none)) ∨
    (owner? ≠ none → r.depth ≠ base) ∧
      openBrace base r owner? = (⟨r.declarations, r.blocks, r.depth + 1⟩, owner?) := by
  dsimp only [openBrace]
  split
  case h_1 owner =>
    split
    · next hlevel => exact .inl ⟨owner, rfl, Nat.succ.inj hlevel, rfl⟩
    · next hlevel => exact .inr ⟨fun _ hsame => hlevel (congrArg Nat.succ hsame), rfl⟩
  case h_2 => exact .inr ⟨fun habsurd => (habsurd rfl).elim, rfl⟩

theorem openBrace_declarations (base : Nat) (r : Reading) (owner? : Option Nat) :
    (openBrace base r owner?).1.declarations = r.declarations := by
  rcases openBrace_cases base r owner? with ⟨owner, -, -, hsame⟩ | ⟨-, hsame⟩ <;> rw [hsame]

/-- An opening brace opens the block of the declaration that waits for it, or no block. -/
theorem openBrace_blocks (base : Nat) (r : Reading) (owner? : Option Nat) :
    ((openBrace base r owner?).1.blocks = r.blocks ∧ (openBrace base r owner?).2 = owner?) ∨
      ∃ owner, owner? = some owner ∧ (openBrace base r owner?).2 = none ∧
        (openBrace base r owner?).1.blocks = ⟨owner, r.depth + 1⟩ :: r.blocks := by
  rcases openBrace_cases base r owner? with ⟨owner, hwaited, -, hsame⟩ | ⟨-, hsame⟩
  · rw [hsame]
    exact .inr ⟨owner, hwaited, rfl, rfl⟩
  · rw [hsame]
    exact .inl ⟨rfl, rfl⟩

theorem anchors_takeBrace (line base : Nat) (state : Reading × Option Nat) (brace : Brace) :
    (takeBrace line base state brace).1.anchors = state.1.anchors := by
  unfold takeBrace anchors
  split
  · rw [openBrace_declarations]
  · exact map_anchor_foldl_close ..

theorem anchors_takeBraces (line base : Nat) (state : Reading × Option Nat)
    (braces : List Brace) :
    (braces.foldl (takeBrace line base) state).1.anchors = state.1.anchors := by
  induction braces generalizing state with
  | nil => rfl
  | cons brace rest ih => rw [List.foldl_cons, ih, anchors_takeBrace]

/-- Lines only add declarations; of those there are, only the ends change. -/
theorem anchors_takeLine (r : Reading) (line : Nat) (text : List Char) :
    (r.takeLine line text).anchors =
      r.anchors ++ ((r.declare? line text).map Declaration.anchor).toList := by
  unfold takeLine
  split
  · next d hd =>
    rw [anchors_takeBraces, hd]
    exact List.map_append
  · next hd =>
    rw [anchors_takeBraces, hd]
    exact (List.append_nil _).symm

theorem anchors_prefix_takeLines (r : Reading) (line : Nat) (lines : List (List Char)) :
    r.anchors <+: (r.takeLines line lines).anchors := by
  induction lines generalizing r line with
  | nil => exact List.prefix_refl _
  | cons text rest ih =>
    refine List.IsPrefix.trans ?_ (ih (r.takeLine line text) (line + 1))
    rw [anchors_takeLine]
    exact List.prefix_append ..

/-! ### The depth -/

theorem takeBrace_depth (line base : Nat) (state : Reading × Option Nat) (brace : Brace) :
    (takeBrace line base state brace).1.depth =
      deepen state.1.depth (⟨line, brace.column⟩, brace.opens) := by
  unfold takeBrace deepen
  split
  · dsimp only [openBrace]
    split
    · split <;> rfl
    · rfl
  · rfl

theorem takeBraces_depth (line base : Nat) (state : Reading × Option Nat) (braces : List Brace) :
    (braces.foldl (takeBrace line base) state).1.depth =
      (braces.map fun brace => (⟨line, brace.column⟩, brace.opens)).foldl deepen state.1.depth := by
  induction braces generalizing state with
  | nil => rfl
  | cons brace rest ih => rw [List.foldl_cons, ih, takeBrace_depth, List.map_cons, List.foldl_cons]

/-- The depth goes up and down with the braces of the lines, whatever they declare. -/
theorem takeLines_depth (r : Reading) (line : Nat) (lines : List (List Char)) :
    (r.takeLines line lines).depth = (numberedBraces line lines).foldl deepen r.depth := by
  induction lines generalizing r line with
  | nil => rfl
  | cons text rest ih =>
    have hfirst : (r.takeLine line text).depth =
        ((braces text).map fun brace => (⟨line, brace.column⟩, brace.opens)).foldl
          deepen r.depth := by
      unfold takeLine
      split <;> exact takeBraces_depth ..
    rw [takeLines, ih, hfirst, numberedBraces, List.foldl_append]

/-! ### What holds while a text is read -/

/-- What holds while the line with the number `line` is read, with the declaration that waits for
its block, if there is one. -/
structure Sound (line : Nat) (state : Reading × Option Nat) : Prop where
  /-- An inner block belongs to a later declaration. -/
  nested : state.1.blocks.Pairwise fun inner outer => outer.owner < inner.owner
  owned : ∀ block ∈ state.1.blocks, block.owner < state.1.declarations.length
  waiting : ∀ owner ∈ state.2,
    owner < state.1.declarations.length ∧ ∀ block ∈ state.1.blocks, block.owner < owner
  ordered : state.1.declarations.Pairwise fun a b => a.span.start.line < b.span.start.line
  reach : ∀ d ∈ state.1.declarations,
    0 < d.span.start.line ∧ d.span.start.line ≤ d.span.stop.line ∧ d.span.stop.line ≤ line

namespace Sound

variable {line base : Nat} {state : Reading × Option Nat} {r : Reading}

theorem start : Sound 0 (Reading.start, none) :=
  ⟨.nil, by simp [Reading.start], by simp, .nil, by simp [Reading.start]⟩

theorem openBrace (h : Sound line state) :
    Sound line (Reading.openBrace base state.1 state.2) := by
  have hsame := openBrace_declarations base state.1 state.2
  obtain ⟨hblocks, hwaits⟩ | ⟨owner, hwaited, hwaits, hblocks⟩ :=
    openBrace_blocks base state.1 state.2
  · exact ⟨hblocks ▸ h.nested, by simpa only [hblocks, hsame] using h.owned,
      by simpa only [hblocks, hwaits, hsame] using h.waiting, hsame ▸ h.ordered, hsame ▸ h.reach⟩
  · obtain ⟨hknown, habove⟩ := h.waiting owner hwaited
    refine ⟨?_, ?_, by simp [hwaits], hsame ▸ h.ordered, hsame ▸ h.reach⟩
    · rw [hblocks]
      exact List.pairwise_cons.mpr ⟨habove, h.nested⟩
    · rw [hblocks, hsame]
      exact List.forall_mem_cons.mpr ⟨hknown, h.owned⟩

theorem closeBrace (column : Nat) (h : Sound line state) :
    Sound line (Reading.closeBrace ⟨line, column⟩ state.1, state.2) := by
  have hkept : ∀ block ∈ (Reading.closeBrace ⟨line, column⟩ state.1).blocks,
      block ∈ state.1.blocks :=
    fun block hblock => (List.dropWhile_sublist _).mem hblock
  have hcount : (Reading.closeBrace ⟨line, column⟩ state.1).declarations.length =
      state.1.declarations.length := length_foldl_close ..
  have hanchored : (Reading.closeBrace ⟨line, column⟩ state.1).anchors = state.1.anchors :=
    map_anchor_foldl_close ..
  refine ⟨h.nested.sublist (List.dropWhile_sublist _), ?_, ?_, ?_, ?_⟩
  · intro block hblock
    rw [hcount]
    exact h.owned block (hkept block hblock)
  · intro owner howner
    rw [hcount]
    obtain ⟨hknown, habove⟩ := h.waiting owner howner
    exact ⟨hknown, fun block hblock => habove block (hkept block hblock)⟩
  · -- the order of the start lines can be read off the anchors
    have horder : state.1.anchors.Pairwise fun a b => a.span.start.line < b.span.start.line :=
      List.pairwise_map.mpr h.ordered
    rw [← hanchored, anchors, List.pairwise_map] at horder
    exact horder
  · intro d hd
    obtain ⟨old, hold, rfl | rfl⟩ := mem_foldl_close hd
    · exact h.reach d hold
    · obtain ⟨hpositive, hupright, hbound⟩ := h.reach old hold
      exact ⟨hpositive, Nat.le_trans hupright hbound, Nat.le_refl line⟩

theorem takeBrace (brace : Brace) (h : Sound line state) :
    Sound line (Reading.takeBrace line base state brace) := by
  unfold Reading.takeBrace
  split
  · exact h.openBrace
  · exact h.closeBrace _

theorem takeBraces (base : Nat) (braces : List Brace) (h : Sound line state) :
    Sound line (braces.foldl (Reading.takeBrace line base) state) := by
  induction braces generalizing state with
  | nil => exact h
  | cons brace rest ih => exact ih (h.takeBrace brace)

/-- At the end of its line a declaration waits no longer. -/
theorem endOfLine (h : Sound line state) : Sound line (state.1, none) :=
  ⟨h.nested, h.owned, by simp, h.ordered, h.reach⟩

theorem next (h : Sound line (r, none)) : Sound (line + 1) (r, none) :=
  ⟨h.nested, h.owned, h.waiting, h.ordered, fun d hd => by
    obtain ⟨hpositive, hupright, hbound⟩ := h.reach d hd
    exact ⟨hpositive, hupright, by omega⟩⟩

/-- The declaration of the next line waits for its block. -/
theorem declare {d : Declaration} {text : List Char} (h : Sound line (r, none))
    (hmade : r.declare? (line + 1) text = some d) :
    Sound (line + 1)
      ({ r with declarations := r.declarations ++ [d] }, some r.declarations.length) := by
  obtain ⟨found, -, rfl⟩ := Option.map_eq_some_iff.mp hmade
  refine ⟨h.nested, ?_, ?_, ?_, ?_⟩
  · intro block hblock
    have hknown := h.owned block hblock
    rw [List.length_append]
    exact Nat.lt_add_right _ hknown
  · rintro owner ⟨⟩
    rw [List.length_append]
    exact ⟨Nat.lt_succ_self _, h.owned⟩
  · refine List.pairwise_append.mpr ⟨h.ordered, List.pairwise_singleton .., ?_⟩
    intro old hold new hnew
    obtain ⟨-, hupright, hbound⟩ := h.reach old hold
    rw [List.mem_singleton.mp hnew]
    exact Nat.lt_succ_of_le (Nat.le_trans hupright hbound)
  · intro old hold
    rcases List.mem_append.mp hold with hold | hold
    · exact h.next.reach old hold
    · rw [List.mem_singleton.mp hold]
      exact ⟨Nat.succ_pos line, Nat.le_refl _, Nat.le_refl _⟩

theorem takeLine (text : List Char) (h : Sound line (r, none)) :
    Sound (line + 1) (r.takeLine (line + 1) text, none) := by
  unfold Reading.takeLine
  split
  · next hmade => exact ((h.declare hmade).takeBraces r.depth (braces text)).endOfLine
  · exact (h.next.takeBraces r.depth (braces text)).endOfLine

theorem takeLines (lines : List (List Char)) (h : Sound line (r, none)) :
    Sound (line + lines.length) (r.takeLines (line + 1) lines, none) := by
  induction lines generalizing line r with
  | nil => exact h
  | cons text rest ih =>
    have := ih (h.takeLine text)
    rwa [List.length_cons, ← Nat.add_assoc, Nat.add_right_comm]

end Sound

theorem sound_takeLines (lines : List (List Char)) :
    Sound lines.length (Reading.start.takeLines 1 lines, none) := by
  have hread := Sound.start.takeLines lines
  rwa [Nat.zero_add] at hread

/-- The declaration with the index `j` is `d`, and no block of it is open or will be. -/
structure Settled (j : Nat) (d : Declaration) (state : Reading × Option Nat) : Prop where
  is : state.1.declarations[j]? = some d
  closed : ∀ block ∈ state.1.blocks, block.owner ≠ j
  past : state.2 ≠ some j

namespace Settled

variable {j line base : Nat} {d : Declaration} {state : Reading × Option Nat} {r : Reading}

theorem takeBrace (brace : Brace) (h : Settled j d state) :
    Settled j d (Reading.takeBrace line base state brace) := by
  unfold Reading.takeBrace
  split
  · have hsame := openBrace_declarations base state.1 state.2
    obtain ⟨hblocks, hwaits⟩ | ⟨owner, hwaited, hwaits, hblocks⟩ :=
      openBrace_blocks base state.1 state.2
    · exact ⟨hsame ▸ h.is, hblocks ▸ h.closed, by rw [hwaits]; exact h.past⟩
    · have hother : owner ≠ j := fun hsame => h.past (hsame ▸ hwaited)
      refine ⟨hsame ▸ h.is, ?_, by simp [hwaits]⟩
      rw [hblocks]
      exact List.forall_mem_cons.mpr ⟨hother, h.closed⟩
  · refine ⟨?_, fun block hblock => ?_, h.past⟩
    · refine (getElem?_foldl_close_of_not_owner _ fun block hblock => ?_).trans h.is
      exact h.closed block ((List.takeWhile_sublist _).mem hblock)
    · exact h.closed block ((List.dropWhile_sublist _).mem hblock)

theorem takeBraces (line base : Nat) (braces : List Brace) (h : Settled j d state) :
    Settled j d (braces.foldl (Reading.takeBrace line base) state) := by
  induction braces generalizing state with
  | nil => exact h
  | cons brace rest ih => exact ih (h.takeBrace brace)

theorem endOfLine (h : Settled j d state) : Settled j d (state.1, none) :=
  ⟨h.is, h.closed, by simp⟩

/-- The declaration of a new line is another one. -/
theorem declare (new : Declaration) (h : Settled j d (r, none)) :
    Settled j d
      ({ r with declarations := r.declarations ++ [new] }, some r.declarations.length) := by
  obtain ⟨hknown, -⟩ := List.getElem?_eq_some_iff.mp h.is
  refine ⟨?_, h.closed, ?_⟩
  · exact (List.getElem?_append_left hknown).trans h.is
  · rintro ⟨⟩
    exact Nat.lt_irrefl _ hknown

theorem takeLine (text : List Char) (h : Settled j d (r, none)) :
    Settled j d (r.takeLine line text, none) := by
  unfold Reading.takeLine
  split
  · next new hmade => exact ((h.declare new).takeBraces line r.depth (braces text)).endOfLine
  · exact (h.takeBraces line r.depth (braces text)).endOfLine

theorem takeLines (lines : List (List Char)) (h : Settled j d (r, none)) :
    Settled j d (r.takeLines line lines, none) := by
  induction lines generalizing line r with
  | nil => exact h
  | cons text rest ih => exact ih (h.takeLine text)

end Settled

/-! ### The stack of open blocks -/

/-- Inner blocks are deeper, and none is deeper than the reading is. -/
structure Stacked (r : Reading) : Prop where
  deeper : r.blocks.Pairwise fun inner outer => outer.depth < inner.depth
  reached : ∀ block ∈ r.blocks, 0 < block.depth ∧ block.depth ≤ r.depth

namespace Stacked

variable {r : Reading}

theorem start : Stacked Reading.start := ⟨.nil, by simp [Reading.start]⟩

/-- A closing brace ends the innermost block if it is as deep as the reading, and no other. -/
theorem closeBrace_cases (stop : Spot) (h : r.Stacked) :
    (∃ top outer, r.blocks = top :: outer ∧ top.depth = r.depth ∧
      (∀ block ∈ outer, block.depth ≤ r.depth - 1) ∧
      r.closeBrace stop = ⟨close stop r.declarations top, outer, r.depth - 1⟩) ∨
    (∀ block ∈ r.blocks, block.depth ≤ r.depth - 1) ∧
      r.closeBrace stop = ⟨r.declarations, r.blocks, r.depth - 1⟩ := by
  have hshallow : ∀ blocks : List Block, (∀ block ∈ blocks, block.depth ≤ r.depth - 1) →
      blocks.takeWhile (fun block => decide (r.depth - 1 < block.depth)) = [] ∧
        blocks.dropWhile (fun block => decide (r.depth - 1 < block.depth)) = blocks := by
    intro blocks hbelow
    cases blocks with
    | nil => exact ⟨rfl, rfl⟩
    | cons block blocks =>
      have := hbelow block List.mem_cons_self
      simp [Nat.not_lt.mpr this]
  obtain ⟨hdeeper, hreached⟩ := h
  unfold closeBrace
  generalize r.blocks = blocks at *
  cases blocks with
  | nil => exact .inr ⟨by simp, rfl⟩
  | cons top outer =>
    obtain ⟨hinner, -⟩ := List.pairwise_cons.mp hdeeper
    obtain ⟨hpositive, hbound⟩ := hreached top List.mem_cons_self
    by_cases hlevel : top.depth = r.depth
    · have hbelow : ∀ block ∈ outer, block.depth ≤ r.depth - 1 := by
        intro block hblock
        have := hinner block hblock
        omega
      have hleft : r.depth - 1 < top.depth := by omega
      obtain ⟨htaken, hdropped⟩ := hshallow outer hbelow
      refine .inl ⟨top, outer, rfl, hlevel, hbelow, ?_⟩
      simp [hleft, htaken, hdropped]
    · have hbelow : ∀ block ∈ top :: outer, block.depth ≤ r.depth - 1 := by
        intro block hblock
        rcases List.mem_cons.mp hblock with rfl | hblock
        · omega
        · have := hinner block hblock
          omega
      obtain ⟨htaken, hdropped⟩ := hshallow _ hbelow
      refine .inr ⟨hbelow, ?_⟩
      simp only [htaken, hdropped, List.foldl_nil]

theorem takeBrace {line base : Nat} {state : Reading × Option Nat} (brace : Brace)
    (h : state.1.Stacked) : (Reading.takeBrace line base state brace).1.Stacked := by
  unfold Reading.takeBrace
  split
  · rcases openBrace_cases base state.1 state.2 with ⟨owner, -, -, hsame⟩ | ⟨-, hsame⟩
    · rw [hsame]
      refine ⟨List.pairwise_cons.mpr ⟨fun block hblock => ?_, h.deeper⟩, ?_⟩
      · exact Nat.lt_succ_of_le (h.reached block hblock).2
      · refine List.forall_mem_cons.mpr ⟨⟨Nat.succ_pos _, Nat.le_refl _⟩, fun block hblock => ?_⟩
        exact ⟨(h.reached block hblock).1, Nat.le_succ_of_le (h.reached block hblock).2⟩
    · rw [hsame]
      exact ⟨h.deeper, fun block hblock =>
        ⟨(h.reached block hblock).1, Nat.le_succ_of_le (h.reached block hblock).2⟩⟩
  · rcases h.closeBrace_cases ⟨line, brace.column + 1⟩ with
      ⟨top, outer, hblocks, -, hbelow, hsame⟩ | ⟨hbelow, hsame⟩
    · have hdeeper := h.deeper
      have hreached := h.reached
      rw [hblocks] at hdeeper hreached
      rw [hsame]
      exact ⟨(List.pairwise_cons.mp hdeeper).2, fun block hblock =>
        ⟨(hreached block (List.mem_cons_of_mem _ hblock)).1, hbelow block hblock⟩⟩
    · rw [hsame]
      exact ⟨h.deeper, fun block hblock => ⟨(h.reached block hblock).1, hbelow block hblock⟩⟩

theorem takeBraces {line base : Nat} {state : Reading × Option Nat} (braces : List Brace)
    (h : state.1.Stacked) : (braces.foldl (Reading.takeBrace line base) state).1.Stacked := by
  induction braces generalizing state with
  | nil => exact h
  | cons brace rest ih => exact ih (h.takeBrace brace)

theorem takeLine {line : Nat} (text : List Char) (h : r.Stacked) :
    (r.takeLine line text).Stacked := by
  unfold Reading.takeLine
  split
  · exact takeBraces (braces text) ⟨h.deeper, h.reached⟩
  · exact takeBraces (braces text) h

theorem takeLines {line : Nat} (lines : List (List Char)) (h : r.Stacked) :
    (r.takeLines line lines).Stacked := by
  induction lines generalizing line r with
  | nil => exact h
  | cons text rest ih => exact ih (h.takeLine text)

/-- Outside all braces no block is open. -/
theorem blocks_eq_nil (h : r.Stacked) (houtside : r.depth = 0) : r.blocks = [] := by
  apply List.eq_nil_iff_forall_not_mem.mpr
  intro block hblock
  have := h.reached block hblock
  omega

end Stacked

/-! ### Lines in two parts -/

theorem takeLines_append (r : Reading) (line : Nat) (front back : List (List Char)) :
    r.takeLines line (front ++ back) =
      (r.takeLines line front).takeLines (line + front.length) back := by
  induction front generalizing r line with
  | nil => rfl
  | cons text rest ih =>
    rw [List.length_cons, Nat.add_comm rest.length 1, ← Nat.add_assoc]
    exact ih (r.takeLine line text) (line + 1)

theorem exists_of_prefix_anchors {s : Reading} {front : List Declaration} {j : Nat}
    {a : Declaration} (hmore : front <+: s.anchors) (hget : front[j]? = some a) :
    ∃ e, s.declarations[j]? = some e ∧ e.anchor = a := by
  obtain ⟨hknown, -⟩ := List.getElem?_eq_some_iff.mp hget
  have hthere : s.anchors[j]? = some a := by
    rw [← hget, List.prefix_iff_getElem?.mp hmore j hknown, List.getElem?_eq_getElem hknown]
  rw [anchors, List.getElem?_map] at hthere
  exact Option.map_eq_some_iff.mp hthere

/-- A declaration keeps its place in the list and its anchor. -/
theorem exists_takeLines {r : Reading} {j : Nat} {d : Declaration} (line : Nat)
    (lines : List (List Char)) (hget : r.declarations[j]? = some d) :
    ∃ e, (r.takeLines line lines).declarations[j]? = some e ∧ e.anchor = d.anchor := by
  apply exists_of_prefix_anchors (anchors_prefix_takeLines r line lines)
  rw [anchors, List.getElem?_map, hget]
  rfl

/-- The declaration of a line comes behind those before. -/
theorem exists_declared {r : Reading} {line : Nat} {text : List Char} {d : Declaration}
    (rest : List (List Char)) (hmade : r.declare? line text = some d) :
    ∃ e, (r.takeLines line (text :: rest)).declarations[r.declarations.length]? = some e ∧
      e.anchor = d.anchor := by
  apply exists_of_prefix_anchors (anchors_prefix_takeLines (r.takeLine line text) (line + 1) rest)
  rw [anchors_takeLine, hmade]
  simp [anchors]

/-- A declaration was there before, or is made by one of the lines. -/
theorem getElem?_anchors_takeLines {r : Reading} {line j : Nat} {lines : List (List Char)}
    {a : Declaration} (hget : (r.takeLines line lines).anchors[j]? = some a) :
    r.anchors[j]? = some a ∨ ∃ before text after d, lines = before ++ text :: after ∧
      (r.takeLines line before).declarations.length = j ∧
      (r.takeLines line before).declare? (line + before.length) text = some d ∧ a = d.anchor := by
  induction lines generalizing r line with
  | nil => exact .inl hget
  | cons text rest ih =>
    rcases ih hget with hget | ⟨before, text', after, d, rfl, hcount, hmade, hsame⟩
    · rw [anchors_takeLine] at hget
      by_cases hknown : j < r.anchors.length
      · rw [List.getElem?_append_left hknown] at hget
        exact .inl hget
      · rw [List.getElem?_append_right (Nat.not_lt.mp hknown)] at hget
        cases hmade : r.declare? line text with
        | none => simp [hmade] at hget
        | some d =>
          have hcount : r.declarations.length = j := by
            rw [anchors, List.length_map] at hknown hget
            obtain ⟨hbound, -⟩ := List.getElem?_eq_some_iff.mp hget
            simp only [hmade, Option.map_some, Option.toList_some, List.length_singleton] at hbound
            omega
          refine .inr ⟨[], text, rest, d, rfl, hcount, hmade, ?_⟩
          rw [anchors, List.length_map, hcount, Nat.sub_self, hmade] at hget
          exact (Option.some.inj hget).symm
    · rw [Nat.add_right_comm] at hmade
      exact .inr ⟨text :: before, text', after, d, rfl, hcount, hmade, hsame⟩

/-- The innermost owner is the last one: a later declaration is settled. -/
theorem Sound.settled {line c j : Nat} {d : Declaration} {r : Reading} (h : Sound line (r, none))
    (hinside : r.blocks.head?.map Block.owner = some c) (hlater : c < j)
    (hget : r.declarations[j]? = some d) : Settled j d (r, none) := by
  refine ⟨hget, ?_, by simp⟩
  obtain ⟨innermost, htop, rfl⟩ := Option.map_eq_some_iff.mp hinside
  obtain ⟨outer, hblocks⟩ := List.head?_eq_some_iff.mp htop
  have hnested := h.nested
  dsimp only at hnested ⊢
  rw [hblocks, List.pairwise_cons] at hnested
  rw [hblocks]
  intro block hblock
  rcases List.mem_cons.mp hblock with rfl | hblock
  · exact Nat.ne_of_lt hlater
  · exact Nat.ne_of_lt (Nat.lt_trans (hnested.1 block hblock) hlater)

end Reading

/-! ### The declarations of a text -/

theorem numberedBraces_append (line : Nat) (front back : List (List Char)) :
    numberedBraces line (front ++ back) =
      numberedBraces line front ++ numberedBraces (line + front.length) back := by
  induction front generalizing line with
  | nil => rfl
  | cons text rest ih =>
    rw [List.cons_append, numberedBraces, ih, numberedBraces, List.append_assoc,
      List.length_cons, Nat.add_assoc, Nat.add_comm 1]

theorem line_of_mem_numberedBraces {line : Nat} {lines : List (List Char)} {brace : Spot × Bool}
    (h : brace ∈ numberedBraces line lines) :
    line ≤ brace.1.line ∧ brace.1.line < line + lines.length := by
  induction lines generalizing line with
  | nil => cases h
  | cons text rest ih =>
    rw [List.length_cons]
    rcases List.mem_append.mp h with h | h
    · obtain ⟨b, -, rfl⟩ := List.mem_map.mp h
      dsimp only
      omega
    · have := ih h
      omega

/-- The braces of the first lines, by the numbers of the lines. -/
theorem filter_numberedBraces (before after : List (List Char)) :
    (numberedBraces 1 (before ++ after)).filter (fun brace => brace.1.line ≤ before.length) =
      numberedBraces 1 before := by
  rw [numberedBraces_append, List.filter_append, List.filter_eq_self.mpr,
    List.filter_eq_nil_iff.mpr, List.append_nil]
  · intro brace hbrace
    have := line_of_mem_numberedBraces hbrace
    rw [decide_eq_true_eq]
    omega
  · intro brace hbrace
    have := line_of_mem_numberedBraces hbrace
    rw [decide_eq_true_eq]
    omega

theorem declarations_sound (text : List Char) :
    Reading.Sound (Text.lines text).length (Reading.start.takeLines 1 (Text.lines text), none) :=
  Reading.sound_takeLines (Text.lines text)

/-- Every declaration of a text was made by one of its lines, behind those of the lines above, and
has kept its anchor. -/
theorem exists_declare?_of_getElem? {text : List Char} {i : Nat} {d : Declaration}
    (hget : (declarations text)[i]? = some d) :
    ∃ before line after made, Text.lines text = before ++ line :: after ∧
      (Reading.start.takeLines 1 before).declarations.length = i ∧
      (Reading.start.takeLines 1 before).declare? (before.length + 1) line = some made ∧
      d.anchor = made.anchor := by
  have hanchored : (Reading.start.takeLines 1 (Text.lines text)).anchors[i]? = some d.anchor := by
    rw [Reading.anchors, List.getElem?_map]
    exact congrArg (Option.map Declaration.anchor) hget
  rcases Reading.getElem?_anchors_takeLines hanchored with
    habsurd | ⟨before, line, after, made, hspec⟩
  · cases habsurd
  · rw [Nat.add_comm 1] at hspec
    exact ⟨before, line, after, made, hspec⟩

theorem exists_declare?_of_mem {text : List Char} {d : Declaration} (h : d ∈ declarations text) :
    ∃ before line after made, Text.lines text = before ++ line :: after ∧
      (Reading.start.takeLines 1 before).declare? (before.length + 1) line = some made ∧
      d.anchor = made.anchor := by
  obtain ⟨i, hget⟩ := List.mem_iff_getElem?.mp h
  obtain ⟨before, line, after, made, hsplit, -, hspec⟩ := exists_declare?_of_getElem? hget
  exact ⟨before, line, after, made, hsplit, hspec⟩

/-- The declaration with the index `i` was made directly inside the block of the declaration with
the index `c`: its block was the innermost open one at the start of the line. -/
def PlacedIn (text : List Char) (i c : Nat) : Prop :=
  ∃ before line after, Text.lines text = before ++ line :: after ∧
    (Reading.start.takeLines 1 before).declarations.length = i ∧
    ((Reading.start.takeLines 1 before).declare? (before.length + 1) line).isSome ∧
    (Reading.start.takeLines 1 before).blocks.head?.map Block.owner = some c

/-- What is declared inside a block has the owner's name as its parent, and whatever was declared
between the two ends above its line. -/
theorem PlacedIn.owner {text : List Char} {i c : Nat} (hplaced : PlacedIn text i c) :
    ∃ inner outer, (declarations text)[i]? = some inner ∧ (declarations text)[c]? = some outer ∧
      c < i ∧ inner.parent = some outer.name ∧
      ∀ j d, c < j → j < i → (declarations text)[j]? = some d →
        d.span.stop.line < inner.span.start.line := by
  obtain ⟨before, line, after, hsplit, rfl, hmade, hinside⟩ := hplaced
  obtain ⟨d, hmade⟩ := Option.isSome_iff_exists.mp hmade
  have hsound := Reading.sound_takeLines before
  have hfinal : Reading.start.takeLines 1 (Text.lines text) =
      (Reading.start.takeLines 1 before).takeLines (before.length + 1) (line :: after) := by
    rw [hsplit, Reading.takeLines_append, Nat.add_comm 1]
  unfold declarations
  rw [hfinal]
  generalize Reading.start.takeLines 1 before = r at *
  obtain ⟨inner, hinner, hsameInner⟩ := Reading.exists_declared after hmade
  obtain ⟨block, htop, rfl⟩ := Option.map_eq_some_iff.mp hinside
  have hknown := hsound.owned block (List.mem_of_mem_head? htop)
  obtain ⟨outer, houter, hsameOuter⟩ := Reading.exists_takeLines (before.length + 1)
    (line :: after) (List.getElem?_eq_getElem hknown)
  obtain ⟨found, -, rfl⟩ := Option.map_eq_some_iff.mp hmade
  refine ⟨inner, outer, hinner, houter, hknown, ?_, ?_⟩
  · have henclosing : r.enclosing? = some r.declarations[block.owner] := by
      rw [Reading.enclosing?, htop]
      exact List.getElem?_eq_getElem hknown
    have hparent := congrArg Declaration.parent hsameInner
    have hname := congrArg Declaration.name hsameOuter
    simp only [Declaration.anchor, henclosing, Option.map_some] at hparent hname
    rw [hparent, hname]
  · intro j d hlater hearly hget
    have hsettled := hsound.settled hinside hlater (List.getElem?_eq_getElem hearly)
    have hsame := (hsettled.takeLines (line :: after)).is.symm.trans hget
    obtain ⟨-, -, hended⟩ := hsound.reach _ (List.getElem_mem hearly)
    have hstart := congrArg (fun d => d.span.start.line) hsameInner
    change inner.span.start.line = before.length + 1 at hstart
    rw [← Option.some.inj hsame, hstart]
    exact Nat.lt_succ_of_le hended

end Source

end PipelineServer
