import PipelineServer.Proofs.Source.Depth

/-!
Which declaration a block belongs to, and where it ends.

Main statement: `parents_and_ends_follow_depth`. The reading keeps the open blocks on a stack. Inner
blocks are deeper, so a closing brace ends at most the innermost one (`Reading.Stacked`), and every
declaration is as far with its block as the braces read so far say (`Reading.Progress`).
-/

namespace PipelineServer

/-- The place behind a declaration's name. -/
def Declaration.nameEnd (d : Declaration) : Spot :=
  ⟨d.span.start.line, d.span.start.column + d.name.length⟩

namespace Source

namespace Reading

/-! ### How far blocks have come -/

/-- How far the declaration `d` with the index `j` is with its block while a line is read: by the
braces so far, and by what the reading holds. -/
inductive Progress (braces : List (Spot × Bool)) (line : Nat) (state : Reading × Option Nat)
    (j : Nat) (d : Declaration) : Prop
  | unopened (hbraces : Unopened braces d.span.start.line)
      (hfree : ∀ block ∈ state.1.blocks, block.owner ≠ j) (hstop : d.span.stop = d.nameEnd)
      (hwaits : state.2 = some j ∧ d.span.start.line = line ∨
        state.2 ≠ some j ∧ d.span.start.line < line)
  | inside (depth : Nat) (hbraces : BlockOpen braces d.span.start.line depth)
      (hheld : ⟨j, depth⟩ ∈ state.1.blocks) (hstop : d.span.stop = d.nameEnd)
      (hpast : state.2 ≠ some j)
  | ended (m : Nat) (brace : Spot × Bool) (hbraces : BlockEnds braces d.span.start.line m)
      (hget : braces[m]? = some brace) (hfree : ∀ block ∈ state.1.blocks, block.owner ≠ j)
      (hstop : d.span.stop = ⟨brace.1.line, brace.1.column + 1⟩) (hpast : state.2 ≠ some j)

namespace Progress

variable {braces : List (Spot × Bool)} {line base column j : Nat} {state : Reading × Option Nat}
  {d : Declaration}

/-- An opening brace of the line that began at depth `base`. -/
theorem openBrace (hprogress : Progress braces line state j d)
    (hdepth : state.1.depth = braces.foldl deepen 0) (hlevel : base = depthAbove braces line)
    (hreached : d.span.start.line ≤ line) :
    Progress (braces ++ [(⟨line, column⟩, true)]) line (Reading.openBrace base state.1 state.2)
      j d := by
  have hknown := openBrace_blocks base state.1 state.2
  -- the only new block is that of the declaration which waits, and then none waits any more
  have hheld : ∀ block ∈ state.1.blocks,
      block ∈ (Reading.openBrace base state.1 state.2).1.blocks := by
    intro block hblock
    rcases hknown with ⟨hsame, -⟩ | ⟨owner, -, -, hsame⟩
    · rwa [hsame]
    · rw [hsame]
      exact List.mem_cons_of_mem _ hblock
  have hpast : state.2 ≠ some j → (Reading.openBrace base state.1 state.2).2 ≠ some j := by
    intro hpast
    rcases hknown with ⟨-, hsame⟩ | ⟨owner, -, hsame, -⟩
    · rwa [hsame]
    · simp [hsame]
  have hfree : (∀ block ∈ state.1.blocks, block.owner ≠ j) → state.2 ≠ some j →
      ∀ block ∈ (Reading.openBrace base state.1 state.2).1.blocks, block.owner ≠ j := by
    intro hfree hpast
    rcases hknown with ⟨hsame, -⟩ | ⟨owner, hwaited, -, hsame⟩
    · rwa [hsame]
    · rw [hsame]
      refine List.forall_mem_cons.mpr ⟨?_, hfree⟩
      rintro rfl
      exact hpast hwaited
  cases hprogress with
  | inside depth hbraces hheld' hstop hpast' =>
    exact .inside depth (hbraces.concat hreached (by simp)) (hheld _ hheld') hstop (hpast hpast')
  | ended m brace hbraces hget hfree' hstop hpast' =>
    refine .ended m brace (hbraces.concat hreached) ?_ (hfree hfree' hpast') hstop (hpast hpast')
    rw [List.getElem?_append_left hbraces.lt_length, hget]
  | unopened hbraces hfree' hstop hwaits =>
    rcases hwaits with ⟨hwaits, hhere⟩ | ⟨hpast', habove⟩
    · rcases openBrace_cases base state.1 state.2 with
        ⟨owner, hwaited, hatBase, hsame⟩ | ⟨hother, hsame⟩
      · obtain rfl : owner = j := Option.some.inj (hwaited.symm.trans hwaits)
        have hopened : BlockOpen (braces ++ [(⟨line, column⟩, true)]) d.span.start.line
            (braces.foldl deepen 0 + 1) :=
          hbraces.opened hreached rfl hhere.symm (by rw [← hdepth, hatBase, hlevel, hhere])
        rw [← hdepth] at hopened
        rw [hsame]
        exact .inside _ hopened List.mem_cons_self hstop (by simp)
      · rw [hsame]
        refine .unopened (hbraces.concat hreached ?_) hfree' hstop (.inl ⟨hwaits, hhere⟩)
        rintro ⟨-, -, hatBase⟩
        apply hother (by simp [hwaits])
        rw [hdepth, hlevel, hatBase, hhere]
    · refine .unopened (hbraces.concat hreached ?_) (hfree hfree' hpast') hstop
        (.inr ⟨hpast hpast', habove⟩)
      rintro ⟨-, hhere, -⟩
      exact habove.ne' hhere

/-- A closing brace that ends no block of the declaration. -/
theorem keeps {state' : Reading × Option Nat} (hprogress : Progress braces line state j d)
    (hreached : d.span.start.line ≤ line) (hwaiting : state'.2 = state.2)
    (hfewer : ∀ block ∈ state'.1.blocks, block ∈ state.1.blocks)
    (hstays : ∀ depth, ⟨j, depth⟩ ∈ state.1.blocks →
      ⟨j, depth⟩ ∈ state'.1.blocks ∧ depth ≤ braces.foldl deepen 0 - 1) :
    Progress (braces ++ [(⟨line, column⟩, false)]) line state' j d := by
  cases hprogress with
  | unopened hbraces hfree hstop hwaits =>
    rw [← hwaiting] at hwaits
    exact .unopened (hbraces.concat hreached (by simp))
      (fun block h => hfree block (hfewer block h)) hstop hwaits
  | ended m brace hbraces hbrace hfree hstop hpast =>
    rw [← hwaiting] at hpast
    refine .ended m brace (hbraces.concat hreached) ?_ (fun block h => hfree block (hfewer block h))
      hstop hpast
    rw [List.getElem?_append_left hbraces.lt_length, hbrace]
  | inside depth hbraces hheld hstop hpast =>
    rw [← hwaiting] at hpast
    obtain ⟨hheld, hlevel⟩ := hstays depth hheld
    exact .inside depth (hbraces.concat hreached fun _ => hlevel) hheld hstop hpast

/-- A closing brace of the line. -/
theorem closeBrace {d' : Declaration} (hstacked : state.1.Stacked) (hsound : Sound line state)
    (hdepth : state.1.depth = braces.foldl deepen 0) (hget : state.1.declarations[j]? = some d)
    (hget' : (Reading.closeBrace ⟨line, column + 1⟩ state.1).declarations[j]? = some d')
    (hprogress : Progress braces line state j d) (hreached : d.span.start.line ≤ line) :
    Progress (braces ++ [(⟨line, column⟩, false)]) line
      (Reading.closeBrace ⟨line, column + 1⟩ state.1, state.2) j d' := by
  rcases hstacked.closeBrace_cases ⟨line, column + 1⟩ with
    ⟨top, outer, hblocks, hatTop, hbelow, hsame⟩ | ⟨hbelow, hsame⟩
  · have hnested := hsound.nested
    have htop : top ∈ state.1.blocks := by
      rw [hblocks]
      exact List.mem_cons_self
    rw [hblocks, List.pairwise_cons] at hnested
    rw [hsame] at hget' ⊢
    dsimp only at hget'
    rw [getElem?_close, hget] at hget'
    by_cases howner : top.owner = j
    · rw [if_pos howner] at hget'
      obtain rfl := Option.some.inj hget'
      cases hprogress with
      | unopened hbraces hfree hstop hwaits => exact absurd howner (hfree top htop)
      | ended m brace hbraces hbrace hfree hstop hpast => exact absurd howner (hfree top htop)
      | inside depth' hbraces hheld hstop hpast =>
        -- the declaration owns the innermost block only
        have heq : ⟨j, depth'⟩ = top := by
          rw [hblocks] at hheld
          rcases List.mem_cons.mp hheld with hhere | hinOuter
          · exact hhere
          · exact absurd howner (hnested.1 _ hinOuter).ne'
        have hlevel : depth' = braces.foldl deepen 0 := by rw [← hdepth, ← hatTop, ← heq]
        have hpositive : 0 < depth' := (hstacked.reached _ hheld).1
        have hends : BlockEnds (braces ++ [(⟨line, column⟩, false)]) d.span.start.line
            braces.length := hbraces.closed hreached rfl (by omega)
        exact .ended braces.length _ hends List.getElem?_concat_length
          (fun block hblock => howner ▸ (hnested.1 block hblock).ne) rfl hpast
    · rw [if_neg howner] at hget'
      obtain rfl := Option.some.inj hget'
      refine hprogress.keeps hreached rfl ?_ fun depth' hheld => ?_
      · intro block hblock
        rw [hblocks]
        exact List.mem_cons_of_mem _ hblock
      · rw [hblocks] at hheld
        have hheld := (List.mem_cons.mp hheld).resolve_left fun hhere => howner (hhere ▸ rfl)
        exact ⟨hheld, hdepth ▸ hbelow _ hheld⟩
  · rw [hsame] at hget' ⊢
    obtain rfl := Option.some.inj (hget.symm.trans hget')
    exact hprogress.keeps hreached rfl (fun _ hblock => hblock) fun depth' hheld =>
      ⟨hheld, hdepth ▸ hbelow _ hheld⟩

end Progress

theorem Sound.start_le {line j : Nat} {state : Reading × Option Nat} {d : Declaration}
    (hsound : Sound line state) (hget : state.1.declarations[j]? = some d) :
    d.span.start.line ≤ line := by
  obtain ⟨-, hupright, hbound⟩ := hsound.reach d (List.mem_of_getElem? hget)
  exact hupright.trans hbound

/-- A line that began at depth `base` is being read, and `braces` have been taken so far. -/
structure Tracks (braces : List (Spot × Bool)) (line base : Nat) (state : Reading × Option Nat) :
    Prop where
  depth : state.1.depth = braces.foldl deepen 0
  level : base = depthAbove braces line
  within : ∀ brace ∈ braces, brace.1.line ≤ line
  progress : ∀ j d, state.1.declarations[j]? = some d → Progress braces line state j d

namespace Tracks

variable {braces : List (Spot × Bool)} {line base : Nat} {state : Reading × Option Nat}
  {r : Reading}

theorem start : Tracks [] 1 0 (Reading.start, none) :=
  ⟨rfl, rfl, by simp, by simp [Reading.start]⟩

theorem takeBrace (brace : Brace) (hstacked : state.1.Stacked) (hsound : Sound line state)
    (h : Tracks braces line base state) :
    Tracks (braces ++ [(⟨line, brace.column⟩, brace.opens)]) line base
      (Reading.takeBrace line base state brace) := by
  refine ⟨?_, ?_, ?_, ?_⟩
  · rw [takeBrace_depth, List.foldl_append, h.depth]
    rfl
  · rw [depthAbove_append (by simp)]
    exact h.level
  · intro brace' hbrace
    rcases List.mem_append.mp hbrace with hbrace | hbrace
    · exact h.within brace' hbrace
    · rw [List.mem_singleton.mp hbrace]
  · unfold Reading.takeBrace
    split
    · next hopens =>
      rw [hopens]
      intro j d hget
      rw [openBrace_declarations] at hget
      exact (h.progress j d hget).openBrace h.depth h.level (hsound.start_le hget)
    · next hcloses =>
      rw [Bool.not_eq_true] at hcloses
      rw [hcloses]
      intro j d' hget'
      have hknown : j < state.1.declarations.length := by
        have hbound := (List.getElem?_eq_some_iff.mp hget').1
        rwa [closeBrace, length_foldl_close] at hbound
      have hget := List.getElem?_eq_getElem hknown
      exact (h.progress j _ hget).closeBrace hstacked hsound h.depth hget hget'
        (hsound.start_le hget)

theorem takeBraces (taken : List Brace) (hstacked : state.1.Stacked) (hsound : Sound line state)
    (h : Tracks braces line base state) :
    Tracks (braces ++ taken.map fun brace => (⟨line, brace.column⟩, brace.opens)) line base
      (taken.foldl (Reading.takeBrace line base) state) := by
  induction taken generalizing braces state with
  | nil => simpa using h
  | cons brace taken ih =>
    have hlater := ih (hstacked.takeBrace brace) (hsound.takeBrace brace)
      (h.takeBrace brace hstacked hsound)
    simpa using hlater

/-- At the end of its line a declaration waits no longer. -/
theorem endOfLine (hsound : Sound line state) (h : Tracks braces line base state) :
    Tracks braces (line + 1) state.1.depth (state.1, none) := by
  have habove : ∀ brace ∈ braces, brace.1.line < line + 1 := fun brace hbrace =>
    Nat.lt_succ_of_le (h.within brace hbrace)
  refine ⟨h.depth, ?_, fun brace hbrace => (habove brace hbrace).le, fun j d hget => ?_⟩
  · rw [depthAbove, List.filter_eq_self.mpr (by simpa using habove)]
    exact h.depth
  · cases h.progress j d hget with
    | inside depth hbraces hheld hstop hpast => exact .inside depth hbraces hheld hstop (by simp)
    | ended m brace hbraces hbrace hfree hstop hpast =>
      exact .ended m brace hbraces hbrace hfree hstop (by simp)
    | unopened hbraces hfree hstop hwaits =>
      exact .unopened hbraces hfree hstop (.inr ⟨by simp, Nat.lt_succ_of_le (hsound.start_le hget)⟩)

/-- The declaration of a line has no block yet. -/
theorem declare {d : Declaration} {text : List Char} (h : Tracks braces (line + 1) base (r, none))
    (habove : ∀ brace ∈ braces, brace.1.line ≤ line) (hsound : Sound line (r, none))
    (hmade : r.declare? (line + 1) text = some d) :
    Tracks braces (line + 1) base
      ({ r with declarations := r.declarations ++ [d] }, some r.declarations.length) := by
  refine ⟨h.depth, h.level, h.within, fun j e hget => ?_⟩
  dsimp only at hget
  by_cases hknown : j < r.declarations.length
  · rw [List.getElem?_append_left hknown] at hget
    have hother : some r.declarations.length ≠ some j := by
      rintro ⟨⟩
      exact Nat.lt_irrefl _ hknown
    cases h.progress j e hget with
    | inside depth hbraces hheld hstop hpast => exact .inside depth hbraces hheld hstop hother
    | ended m brace hbraces hbrace hfree hstop hpast =>
      exact .ended m brace hbraces hbrace hfree hstop hother
    | unopened hbraces hfree hstop hwaits =>
      rcases hwaits with ⟨habsurd, -⟩ | ⟨-, hearly⟩
      · cases habsurd
      · exact .unopened hbraces hfree hstop (.inr ⟨hother, hearly⟩)
  · obtain rfl : r.declarations.length = j := by
      have hbound := (List.getElem?_eq_some_iff.mp hget).1
      rw [List.length_append, List.length_singleton] at hbound
      omega
    rw [List.getElem?_concat_length] at hget
    obtain rfl := Option.some.inj hget
    obtain ⟨found, -, rfl⟩ := Option.map_eq_some_iff.mp hmade
    refine .unopened ?_ (fun block hblock => (hsound.owned block hblock).ne) ?_ (.inl ⟨rfl, rfl⟩)
    · rintro n ⟨spot, hbrace, hhere, -⟩
      have := habove _ (List.mem_of_getElem? hbrace)
      dsimp only [Span.onLine] at hhere this
      omega
    · simp [Declaration.nameEnd, Span.onLine]

theorem takeLine (text : List Char) (h : Tracks braces (line + 1) r.depth (r, none))
    (habove : ∀ brace ∈ braces, brace.1.line ≤ line) (hsound : Sound line (r, none))
    (hstacked : r.Stacked) :
    Tracks (braces ++ (Source.braces text).map fun brace => (⟨line + 1, brace.column⟩, brace.opens))
      (line + 2) (r.takeLine (line + 1) text).depth (r.takeLine (line + 1) text, none) := by
  unfold Reading.takeLine
  split
  · next d hmade =>
    have hdeclared := hsound.declare hmade
    exact ((h.declare habove hsound hmade).takeBraces _ ⟨hstacked.deeper, hstacked.reached⟩
      hdeclared).endOfLine (hdeclared.takeBraces _ _)
  · exact (h.takeBraces _ hstacked hsound.next).endOfLine (hsound.next.takeBraces _ _)

theorem takeLines (lines : List (List Char)) (h : Tracks braces (line + 1) r.depth (r, none))
    (habove : ∀ brace ∈ braces, brace.1.line ≤ line) (hsound : Sound line (r, none))
    (hstacked : r.Stacked) :
    Tracks (braces ++ numberedBraces (line + 1) lines) (line + lines.length + 1)
      (r.takeLines (line + 1) lines).depth (r.takeLines (line + 1) lines, none) := by
  induction lines generalizing braces line r with
  | nil =>
    rw [numberedBraces, List.append_nil]
    exact h
  | cons text lines ih =>
    have hwithin : ∀ brace ∈ braces ++ (Source.braces text).map
        (fun brace => ((⟨line + 1, brace.column⟩ : Spot), brace.opens)),
        brace.1.line ≤ line + 1 := by
      intro brace hbrace
      rcases List.mem_append.mp hbrace with hbrace | hbrace
      · exact (habove brace hbrace).trans (Nat.le_succ line)
      · obtain ⟨taken, -, rfl⟩ := List.mem_map.mp hbrace
        exact Nat.le_refl _
    have hlater := ih (h.takeLine text habove hsound hstacked) hwithin (hsound.takeLine text)
      (hstacked.takeLine text)
    rw [List.append_assoc] at hlater
    rwa [List.length_cons, Nat.add_comm lines.length, ← Nat.add_assoc]

/-- The declarations whose blocks are open by the braces are those that own one on the stack. -/
theorem exists_blockOpen_iff {j : Nat} {d : Declaration} (h : Tracks braces line base state)
    (hget : state.1.declarations[j]? = some d) :
    (∃ depth, BlockOpen braces d.span.start.line depth) ↔
      ∃ block ∈ state.1.blocks, block.owner = j := by
  cases h.progress j d hget with
  | inside depth hbraces hheld hstop hpast =>
    exact ⟨fun _ => ⟨_, hheld, rfl⟩, fun _ => ⟨depth, hbraces⟩⟩
  | unopened hbraces hfree hstop hwaits =>
    refine ⟨?_, fun ⟨held, hheld, howner⟩ => absurd howner (hfree held hheld)⟩
    rintro ⟨depth, n, hopens, -⟩
    exact absurd hopens.1 (hbraces n)
  | ended m brace hbraces hbrace hfree hstop hpast =>
    refine ⟨?_, fun ⟨held, hheld, howner⟩ => absurd howner (hfree held hheld)⟩
    rintro ⟨depth, hopen⟩
    exact absurd hbraces hopen.not_blockEnds

end Tracks

theorem tracks_takeLines (lines : List (List Char)) :
    Tracks (numberedBraces 1 lines) (lines.length + 1) (Reading.start.takeLines 1 lines).depth
      (Reading.start.takeLines 1 lines, none) := by
  have hread := Tracks.start.takeLines lines (by simp) Sound.start Stacked.start
  simpa only [Nat.zero_add, List.nil_append] using hread

end Reading

/-! ### Parents and ends -/

/-- The block of the declaration with the index `j` is open at the start of the line of the
declaration with the index `i`. -/
def OpenFor (text : List Char) (j i : Nat) : Prop :=
  ∃ outer inner, (declarations text)[j]? = some outer ∧ (declarations text)[i]? = some inner ∧
    OpenAt (lineBraces text) outer.span.start.line inner.span.start.line

/-- The declaration with the index `j` is the latest one in front of the index `i` whose block is
open for the one there. -/
def Encloses (text : List Char) (j i : Nat) : Prop :=
  j < i ∧ OpenFor text j i ∧ ∀ k, j < k → k < i → ¬ OpenFor text k i

/-- Where a declaration ends. -/
theorem stop_of_progress {text : List Char} {i : Nat} {d : Declaration}
    (hget : (declarations text)[i]? = some d) :
    (∀ m brace, BlockEnds (lineBraces text) d.span.start.line m →
      (lineBraces text)[m]? = some brace → d.span.stop = ⟨brace.1.line, brace.1.column + 1⟩) ∧
    ((∀ m, ¬ BlockEnds (lineBraces text) d.span.start.line m) → d.span.stop = d.nameEnd) := by
  cases (Reading.tracks_takeLines (Text.lines text)).progress i d hget with
  | unopened hbraces hfree hstop hwaits =>
    exact ⟨fun m brace hends => absurd hends hbraces.not_blockEnds, fun _ => hstop⟩
  | inside depth hbraces hheld hstop hpast =>
    exact ⟨fun m brace hends => absurd hends hbraces.not_blockEnds, fun _ => hstop⟩
  | ended m brace hbraces hbrace hfree hstop hpast =>
    refine ⟨fun k other hends hother => ?_, fun hnever => absurd hbraces (hnever m)⟩
    obtain rfl := hbraces.unique hends
    obtain rfl := Option.some.inj (hbrace.symm.trans hother)
    exact hstop

/-- At the start of a line the braces of the lines above it decide which blocks are open. -/
theorem openAt_lineBraces_iff {text line : List Char} {before after : List (List Char)} {own : Nat}
    (hsplit : Text.lines text = before ++ line :: after) (hearlier : own ≤ before.length) :
    OpenAt (lineBraces text) own (before.length + 1) ↔
      ∃ depth, BlockOpen (numberedBraces 1 before) own depth := by
  rw [lineBraces, hsplit, numberedBraces_append]
  refine openAt_append_iff ?_ ?_ (Nat.lt_succ_of_le hearlier)
  · intro brace hbrace
    have := line_of_mem_numberedBraces hbrace
    omega
  · intro brace hbrace
    have := line_of_mem_numberedBraces hbrace
    omega

/-- While a declaration is made, the open blocks are those on the stack. -/
theorem openFor_iff {text line : List Char} {before after : List (List Char)} {i j : Nat}
    {d : Declaration} (hsplit : Text.lines text = before ++ line :: after)
    (hcount : (Reading.start.takeLines 1 before).declarations.length = i)
    (hget : (declarations text)[i]? = some d) (hstart : d.span.start.line = before.length + 1)
    (hearlier : j < i) :
    OpenFor text j i ↔
      ∃ block ∈ (Reading.start.takeLines 1 before).blocks, block.owner = j := by
  have hfinal : Reading.start.takeLines 1 (Text.lines text) =
      (Reading.start.takeLines 1 before).takeLines (1 + before.length) (line :: after) := by
    rw [hsplit, Reading.takeLines_append]
  have hsound := Reading.sound_takeLines before
  have htracks := Reading.tracks_takeLines before
  generalize Reading.start.takeLines 1 before = r at *
  subst hcount
  have hknown : r.declarations[j]? = some r.declarations[j] := List.getElem?_eq_getElem hearlier
  obtain ⟨outer, houter, hsame⟩ :=
    Reading.exists_takeLines (1 + before.length) (line :: after) hknown
  rw [← hfinal] at houter
  -- later braces move the end of the declaration, not its start
  have hsameLine : outer.span.start.line = r.declarations[j].span.start.line :=
    congrArg (fun d => d.span.start.line) hsame
  rw [← htracks.exists_blockOpen_iff hknown,
    ← openAt_lineBraces_iff hsplit (hsound.start_le hknown), ← hstart, ← hsameLine]
  constructor
  · rintro ⟨outer', inner', houter', hinner', hopen⟩
    cases houter.symm.trans houter'
    cases hget.symm.trans hinner'
    exact hopen
  · exact fun hopen => ⟨outer, d, houter, hget, hopen⟩

/-- The parent of a declaration is the latest one whose block is open. -/
theorem parent_of_openFor {text : List Char} {i : Nat} {d : Declaration}
    (hget : (declarations text)[i]? = some d) :
    d.parent = none ∧ (∀ j < i, ¬ OpenFor text j i) ∨
      ∃ j outer, Encloses text j i ∧ (declarations text)[j]? = some outer ∧
        d.parent = some outer.name := by
  obtain ⟨before, line, after, made, hsplit, hcount, hdeclared, hsame⟩ :=
    exists_declare?_of_getElem? hget
  have hstart : d.span.start.line = before.length + 1 := by
    obtain ⟨found, -, rfl⟩ := Option.map_eq_some_iff.mp hdeclared
    exact congrArg (fun d => d.span.start.line) hsame
  cases hblocks : (Reading.start.takeLines 1 before).blocks with
  | nil =>
    refine .inl ⟨?_, fun j hearlier => ?_⟩
    · obtain ⟨found, -, rfl⟩ := Option.map_eq_some_iff.mp hdeclared
      have hparent := congrArg Declaration.parent hsame
      simpa [Declaration.anchor, Reading.enclosing?, hblocks] using hparent
    · rw [openFor_iff hsplit hcount hget hstart hearlier, hblocks]
      simp
  | cons top outer =>
    have hplaced : PlacedIn text i top.owner :=
      ⟨before, line, after, hsplit, hcount, by rw [hdeclared]; rfl, by rw [hblocks]; rfl⟩
    obtain ⟨inner, owner, hinner, howner, hearlier, hparent, -⟩ := hplaced.owner
    obtain rfl := Option.some.inj (hget.symm.trans hinner)
    refine .inr ⟨top.owner, owner, ⟨hearlier, ?_, ?_⟩, howner, hparent⟩
    · rw [openFor_iff hsplit hcount hget hstart hearlier, hblocks]
      exact ⟨top, List.mem_cons_self, rfl⟩
    · intro k hlater hearly
      have hnested := (Reading.sound_takeLines before).nested
      rw [hblocks, List.pairwise_cons] at hnested
      rw [openFor_iff hsplit hcount hget hstart hearly, hblocks]
      rintro ⟨block, hblock, rfl⟩
      rcases List.mem_cons.mp hblock with rfl | hblock
      · exact Nat.lt_irrefl _ hlater
      · exact Nat.lt_asymm hlater (hnested.1 block hblock)

/-- Declarations on one line are one declaration. -/
theorem index_eq_of_line {text : List Char} {i j : Nat} {d e : Declaration}
    (hget : (declarations text)[i]? = some d) (hget' : (declarations text)[j]? = some e)
    (hsame : d.span.start.line = e.span.start.line) : i = j := by
  have hordered := List.pairwise_iff_getElem.mp (declarations_sound text).ordered
  obtain ⟨hknown, rfl⟩ := List.getElem?_eq_some_iff.mp hget
  obtain ⟨hknown', rfl⟩ := List.getElem?_eq_some_iff.mp hget'
  rcases Nat.lt_trichotomy i j with hbefore | rfl | hbehind
  · exact absurd hsame (hordered i j hknown hknown' hbefore).ne
  · rfl
  · exact absurd hsame (hordered j i hknown' hknown hbehind).ne'

/-- A declaration has as its parent the latest one before it whose block is open at the start of its
line. It ends at the brace that closes its block, or behind its name where no brace does, and no
brace closes the blocks of two declarations. -/
theorem parents_and_ends_follow_depth (text : List Char) :
    (∀ i d, (declarations text)[i]? = some d →
      (d.parent = none ∧ (∀ j < i, ¬ OpenFor text j i) ∨
        ∃ j outer, Encloses text j i ∧ (declarations text)[j]? = some outer ∧
          d.parent = some outer.name) ∧
      (∀ m brace, BlockEnds (lineBraces text) d.span.start.line m →
        (lineBraces text)[m]? = some brace →
          d.span.stop = ⟨brace.1.line, brace.1.column + 1⟩) ∧
      ((∀ m, ¬ BlockEnds (lineBraces text) d.span.start.line m) → d.span.stop = d.nameEnd)) ∧
    ∀ (i j m : Nat) (d e : Declaration), (declarations text)[i]? = some d →
      (declarations text)[j]? = some e → BlockEnds (lineBraces text) d.span.start.line m →
      BlockEnds (lineBraces text) e.span.start.line m → i = j := by
  constructor
  · intro i d hget
    exact ⟨parent_of_openFor hget, stop_of_progress hget⟩
  · intro i j m d e hget hget' hends hends'
    exact index_eq_of_line hget hget' (hends.line_unique hends')

namespace OwnershipWitness

/-- A brace without a partner, and a class with a method whose line opens two blocks. -/
def text : List Char :=
  "\x7d\nclass A \x7b\n  def f() \x7b \x7d \x7b\n  \x7d\n  int x = 1 \x7d".toList

def owner : Declaration := ⟨"A", .classType, ⟨⟨2, 7⟩, ⟨5, 14⟩⟩, none, none⟩

def member : Declaration := ⟨"x", .property, ⟨⟨5, 7⟩, ⟨5, 8⟩⟩, some "A", some "int"⟩

/-- The class ends at the last brace, and encloses what is declared on that brace's line. -/
theorem parents_and_ends_follow_depth_surplus :
    (declarations text)[0]? = some owner ∧ (declarations text)[2]? = some member ∧
      BlockEnds (lineBraces text) 2 6 ∧ (lineBraces text)[6]? = some (⟨5, 13⟩, false) ∧
      owner.span.stop = ⟨5, 14⟩ ∧
      ∃ j outer, Encloses text j 2 ∧ (declarations text)[j]? = some outer ∧
        member.parent = some outer.name := by
  have howner : (declarations text)[0]? = some owner := by decide +kernel
  have hmember : (declarations text)[2]? = some member := by decide +kernel
  have hbrace : (lineBraces text)[6]? = some (⟨5, 13⟩, false) := by decide +kernel
  have hopens : BlockOpens (lineBraces text) 2 1 := isLeast_iff.mpr (by decide +kernel)
  have hcloses : BlockCloses (lineBraces text) 1 6 := isLeast_iff.mpr (by decide +kernel)
  have hends : BlockEnds (lineBraces text) 2 6 := ⟨1, hopens, hcloses⟩
  obtain ⟨-, hstop, -⟩ := (parents_and_ends_follow_depth text).1 0 owner howner
  obtain ⟨⟨habsurd, -⟩ | hparent, -⟩ := (parents_and_ends_follow_depth text).1 2 member hmember
  · cases habsurd
  · exact ⟨howner, hmember, hends, hbrace, hstop 6 _ hends hbrace, hparent⟩

end OwnershipWitness

end Source

end PipelineServer
