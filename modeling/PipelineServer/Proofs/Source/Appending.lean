import PipelineServer.Proofs.Source.Blocks
import PipelineServer.Proofs.Source.Composition

/-!
Reading declarations part by part.

Main statement: `declarations_append`. Whole lines that close all their braces leave no block open,
so what is read below them is read as at the start of a text: the declarations come behind those
above (`Reading.below`), and every step of the reading keeps it so.
-/

namespace PipelineServer

/-- The same declaration, some lines further down. -/
def Declaration.down (lines : Nat) (d : Declaration) : Declaration :=
  { d with span := d.span.down lines }

namespace Source

/-- The block of the declaration that comes `count` places later. -/
def Block.later (count : Nat) (block : Block) : Block := ⟨count + block.owner, block.depth⟩

namespace Reading

/-- What has been read, when it stands below other lines with the declarations `above`. -/
def below (above : List Declaration) (lines : Nat) (r : Reading) : Reading :=
  ⟨above ++ r.declarations.map (Declaration.down lines), r.blocks.map (Block.later above.length),
    r.depth⟩

variable (above : List Declaration) (lines : Nat)

/-! ### One brace -/

theorem close_below (stop : Spot) (ds : List Declaration) (block : Block) :
    close (stop.down lines) (above ++ ds.map (Declaration.down lines))
        (block.later above.length) =
      above ++ (close stop ds block).map (Declaration.down lines) := by
  apply List.ext_getElem?
  intro j
  rw [getElem?_close, Block.later]
  by_cases hearly : j < above.length
  · have hother : ¬ above.length + block.owner = j := by omega
    rw [if_neg hother, List.getElem?_append_left hearly, List.getElem?_append_left hearly]
  · obtain ⟨k, rfl⟩ := Nat.exists_eq_add_of_le (Nat.not_lt.mp hearly)
    simp only [List.getElem?_append_right, Nat.le_add_right, Nat.add_sub_cancel_left,
      List.getElem?_map, getElem?_close, Nat.add_left_cancel_iff]
    split
    · rw [Option.map_map, Option.map_map]
      rfl
    · rfl

theorem foldl_close_below (stop : Spot) (blocks : List Block) (ds : List Declaration) :
    (blocks.map (Block.later above.length)).foldl (close (stop.down lines))
        (above ++ ds.map (Declaration.down lines)) =
      above ++ (blocks.foldl (close stop) ds).map (Declaration.down lines) := by
  induction blocks generalizing ds with
  | nil => rfl
  | cons block rest ih =>
    rw [List.map_cons, List.foldl_cons, close_below, ih, List.foldl_cons]

theorem openBrace_below (base : Nat) (r : Reading) (owner? : Option Nat) :
    openBrace base (r.below above lines) (owner?.map (above.length + ·)) =
      ((openBrace base r owner?).1.below above lines,
        (openBrace base r owner?).2.map (above.length + ·)) := by
  cases owner? with
  | none => rfl
  | some owner =>
    dsimp only [openBrace, Option.map_some, below]
    split <;> rfl

theorem closeBrace_below (stop : Spot) (r : Reading) :
    (r.below above lines).closeBrace (stop.down lines) =
      (r.closeBrace stop).below above lines := by
  have hleft : (fun block : Block => decide (r.depth - 1 < block.depth)) ∘
      Block.later above.length = fun block => decide (r.depth - 1 < block.depth) := rfl
  dsimp only [closeBrace, below]
  rw [List.takeWhile_map, List.dropWhile_map, hleft, foldl_close_below]

theorem takeBrace_below (line base : Nat) (state : Reading × Option Nat) (brace : Brace) :
    takeBrace (line + lines) base
        (state.1.below above lines, state.2.map (above.length + ·)) brace =
      ((takeBrace line base state brace).1.below above lines,
        (takeBrace line base state brace).2.map (above.length + ·)) := by
  unfold takeBrace
  split
  · exact openBrace_below ..
  · exact congrArg (·, _) (closeBrace_below above lines ⟨line, brace.column + 1⟩ state.1)

theorem takeBraces_below (line base : Nat) (state : Reading × Option Nat) (braces : List Brace) :
    (braces.foldl (takeBrace (line + lines) base)
        (state.1.below above lines, state.2.map (above.length + ·))).1 =
      (braces.foldl (takeBrace line base) state).1.below above lines := by
  induction braces generalizing state with
  | nil => rfl
  | cons brace rest ih => rw [List.foldl_cons, takeBrace_below, ih, List.foldl_cons]

/-! ### One line -/

theorem enclosing?_below (r : Reading) :
    (r.below above lines).enclosing? = r.enclosing?.map (Declaration.down lines) := by
  unfold enclosing? below
  cases r.blocks with
  | nil => rfl
  | cons block rest =>
    change (above ++ r.declarations.map (Declaration.down lines))[above.length + block.owner]? = _
    rw [List.getElem?_append_right (Nat.le_add_right ..), Nat.add_sub_cancel_left,
      List.getElem?_map]
    rfl

theorem inTypeBody_below (r : Reading) : (r.below above lines).inTypeBody = r.inTypeBody := by
  have hheads : (r.below above lines).blocks.head? =
      r.blocks.head?.map (Block.later above.length) := List.head?_map
  unfold inTypeBody
  rw [enclosing?_below, hheads]
  cases r.blocks.head? with
  | none => rfl
  | some block => cases r.enclosing? <;> rfl

/-- A line declares below others what it declares at the start. -/
theorem declare?_below (r : Reading) (line : Nat) (text : List Char) :
    (r.below above lines).declare? (line + lines) text =
      (r.declare? line text).map (Declaration.down lines) := by
  have hparent : (r.enclosing?.map (Declaration.down lines)).map Declaration.name =
      r.enclosing?.map Declaration.name := Option.map_map ..
  unfold declare?
  rw [inTypeBody_below, enclosing?_below, hparent, Option.map_map]
  rfl

theorem takeLine_below (r : Reading) (line : Nat) (text : List Char) :
    (r.below above lines).takeLine (line + lines) text =
      (r.takeLine line text).below above lines := by
  unfold takeLine
  rw [declare?_below]
  cases r.declare? line text with
  | none => exact takeBraces_below above lines line r.depth (r, none) (braces text)
  | some d =>
    have hmore := takeBraces_below above lines line r.depth
      ({ r with declarations := r.declarations ++ [d] }, some r.declarations.length) (braces text)
    simpa [below] using hmore

/-! ### All lines -/

/-- Where no block is open, the reading is at its start, below the declarations so far. -/
theorem eq_start_below {r : Reading} (hfree : r.blocks = []) (houtside : r.depth = 0) :
    r = start.below r.declarations lines := by
  obtain ⟨ds, blocks, depth⟩ := r
  obtain rfl : blocks = [] := hfree
  obtain rfl : depth = 0 := houtside
  simp [below, start]

theorem takeLines_below (r : Reading) (line : Nat) (texts : List (List Char)) :
    (r.below above lines).takeLines (line + lines) texts =
      (r.takeLines line texts).below above lines := by
  induction texts generalizing r line with
  | nil => rfl
  | cons text rest ih => rw [takeLines, takeLine_below, Nat.add_right_comm, ih, takeLines]

end Reading

/-- The declarations of whole lines that close all their braces stay as they are, whatever follows,
and those of what follows are the same, further down. -/
theorem declarations_append {above : List Char} (text : List Char) (hwhole : Text.Whole above)
    (hclosed : (Reading.start.takeLines 1 (Text.lines above)).depth = 0) :
    declarations (above ++ text) = declarations above ++
      (declarations text).map (Declaration.down (Text.lines above).length) := by
  have hfree := (Reading.Stacked.start.takeLines (Text.lines above)).blocks_eq_nil hclosed
  have hread : Reading.start.takeLines 1 (Text.lines (above ++ text)) =
      (Reading.start.takeLines 1 (Text.lines text)).below (declarations above)
        (Text.lines above).length := by
    rw [Text.lines_append_of_whole text hwhole, Reading.takeLines_append,
      Reading.eq_start_below (Text.lines above).length hfree hclosed, Reading.takeLines_below]
    rfl
  exact congrArg Reading.declarations hread

namespace AppendingWitness

/-- Lines that end in carriage returns, with a brace too many. -/
def above : List Char := "class A \x7b\r\n  int x\r\n\x7d \x7d\r\n".toList

/-- A method in a class that is not closed. -/
def text : List Char := "enum B \x7b\n  def f() \x7b\n  \x7d".toList

/-- The class and its field stay where they are, and the others move down three lines. -/
theorem declarations_append_unclosed :
    Text.Whole above ∧ (Reading.start.takeLines 1 (Text.lines above)).depth = 0 ∧
      declarations above =
        [⟨"A", .classType, ⟨⟨1, 7⟩, ⟨3, 2⟩⟩, none, none⟩,
          ⟨"x", .property, ⟨⟨2, 7⟩, ⟨2, 8⟩⟩, some "A", some "int"⟩] ∧
      declarations text =
        [⟨"B", .enumType, ⟨⟨1, 6⟩, ⟨1, 7⟩⟩, none, none⟩,
          ⟨"f", .method, ⟨⟨2, 7⟩, ⟨3, 4⟩⟩, some "B", none⟩] ∧
      declarations (above ++ text) = declarations above ++
        [⟨"B", .enumType, ⟨⟨4, 6⟩, ⟨4, 7⟩⟩, none, none⟩,
          ⟨"f", .method, ⟨⟨5, 7⟩, ⟨6, 4⟩⟩, some "B", none⟩] := by
  have hwhole : Text.Whole above := .inr (by decide +kernel)
  have hclosed : (Reading.start.takeLines 1 (Text.lines above)).depth = 0 := by decide +kernel
  have hlines : (Text.lines above).length = 3 := by decide +kernel
  have hbelow : declarations text =
      [⟨"B", .enumType, ⟨⟨1, 6⟩, ⟨1, 7⟩⟩, none, none⟩,
        ⟨"f", .method, ⟨⟨2, 7⟩, ⟨3, 4⟩⟩, some "B", none⟩] := by decide +kernel
  have hparts := declarations_append text hwhole hclosed
  rw [hlines, hbelow] at hparts
  exact ⟨hwhole, hclosed, by decide +kernel, hbelow, hparts⟩

end AppendingWitness

end Source

end PipelineServer
