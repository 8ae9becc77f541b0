import PipelineServer.Proofs.Source.Blocks
import PipelineServer.Symbols.Outline

/-!
The outline as a forest, and the blocks it shows.

A forest is read off as the list of its symbols, each with the symbol right above it. In an
outline every symbol stands below the latest earlier one that can hold it. For the declarations of
a text that one is the owner of the block in which the declaration was made, whatever names the
others have: between the owner and the declaration there are only declarations that have ended.
-/

namespace PipelineServer

namespace Outline

mutual

/-- The symbols of a tree, each with the one right above it. -/
def placement (above : Option Symbol) : OutlineNode → List (Option Symbol × Symbol)
  | .node s _ children => (above, s) :: placements (some s) children

/-- The symbols of a forest that stands below `above`, each with the one right above it. -/
def placements (above : Option Symbol) : List OutlineNode → List (Option Symbol × Symbol)
  | [] => []
  | node :: rest => placement above node ++ placements above rest

end

/-- Symbols in order, each with the latest earlier one that can hold it; `earlier` are the symbols
before them, the last one first. -/
def holders (earlier : List Symbol) : List Symbol → List (Option Symbol × Symbol)
  | [] => []
  | s :: rest => (earlier.find? fun outer => holds outer s, s) :: holders (s :: earlier) rest

theorem placements_eq_flatMap (above : Option Symbol) (nodes : List OutlineNode) :
    placements above nodes = nodes.flatMap (placement above) := by
  induction nodes with
  | nil => rfl
  | cons node rest ih => rw [placements, ih, List.flatMap_cons]

theorem parentOf?_lt {earlier : List Symbol} {s : Symbol} {i : Nat}
    (h : parentOf? earlier s = some i) : i < earlier.length := by
  obtain ⟨back, hfound, rfl⟩ := Option.map_eq_some_iff.mp h
  obtain ⟨hknown, -⟩ := List.findIdx?_eq_some_iff_findIdx_eq.mp hfound
  omega

/-- The index that is found is the index of the latest symbol that can hold `s`. -/
theorem parentOf?_bind (earlier rest : List Symbol) (s : Symbol) :
    ((parentOf? earlier s).bind fun i => (earlier.reverse ++ rest)[i]?) =
      earlier.find? fun outer => holds outer s := by
  rw [parentOf?]
  cases hfound : earlier.findIdx? fun outer => holds outer s with
  | none =>
    refine (List.find?_eq_none.mpr fun outer houter => ?_).symm
    rw [List.findIdx?_eq_none_iff.mp hfound outer houter]
    exact Bool.false_ne_true
  | some back =>
    obtain ⟨hknown, rfl⟩ := List.findIdx?_eq_some_iff_findIdx_eq.mp hfound
    rw [List.find?_eq_getElem?_findIdx, Option.map_some, Option.bind_some,
      List.getElem?_append_left (by rw [List.length_reverse]; omega)]
    exact List.getElem?_reverse' (by omega)

/-- A tree waits for a symbol that is still to come. -/
theorem lt_of_mem_gather {earlier symbols : List Symbol} {p : Option Nat × OutlineNode} {i : Nat}
    (h : p ∈ gather earlier symbols) (hwaits : p.1 = some i) : i < earlier.length := by
  induction symbols generalizing earlier with
  | nil => cases h
  | cons s rest ih =>
    rcases List.mem_cons.mp h with rfl | h
    · exact parentOf?_lt hwaits
    · obtain ⟨h, hother⟩ := List.mem_filter.mp h
      have hbound := ih h
      have hne : i ≠ earlier.length := by
        rintro rfl
        simp [hwaits] at hother
      rw [List.length_cons] at hbound
      omega

/-- Making a tree from those that wait for it places one more symbol and moves none. -/
theorem attach_placements {place : Nat → Option Symbol} {i : Nat} {s : Symbol}
    (hhere : place i = some s) (parent : Option Nat) (pending : Pending) :
    ((attach i s parent pending).flatMap fun p => placement (p.1.bind place) p.2).Perm
      ((parent.bind place, s) ::
        pending.flatMap fun p => placement (p.1.bind place) p.2) := by
  have hmine : placements (some s) ((pending.filter fun p => p.1 == some i).map Prod.snd) =
      (pending.filter fun p => p.1 == some i).flatMap fun p => placement (p.1.bind place) p.2 := by
    rw [placements_eq_flatMap, List.flatMap_map]
    apply List.flatMap_congr
    intro p hp
    rw [beq_iff_eq.mp (List.mem_filter.mp hp).2, Option.bind_some, hhere]
  rw [attach, List.flatMap_cons, placement, hmine, List.cons_append, ← List.flatMap_append]
  exact ((List.filter_append_perm (fun p => p.1 == some i) pending).flatMap_right _).cons _

/-- The trees that wait hold the symbols that are done, each below its holder. -/
theorem gather_placements (earlier symbols : List Symbol) :
    ((gather earlier symbols).flatMap fun p =>
      placement (p.1.bind fun i => (earlier.reverse ++ symbols)[i]?) p.2).Perm
      (holders earlier symbols) := by
  induction symbols generalizing earlier with
  | nil => exact .nil
  | cons s rest ih =>
    have hall : (s :: earlier).reverse ++ rest = earlier.reverse ++ s :: rest := by simp
    have hhere : (earlier.reverse ++ s :: rest)[earlier.length]? = some s := by simp
    have ih := ih (s :: earlier)
    rw [hall] at ih
    refine (attach_placements hhere _ _).trans ?_
    rw [parentOf?_bind]
    exact ih.cons _

/-- In an outline every symbol occurs as often as it was given, below its holder. -/
theorem outline_placements (symbols : List Symbol) :
    (placements none (outline symbols)).Perm (holders [] symbols) := by
  have hroots : placements none (outline symbols) = (gather [] symbols).flatMap fun p =>
      placement (p.1.bind fun i => (([] : List Symbol).reverse ++ symbols)[i]?) p.2 := by
    rw [outline, placements_eq_flatMap, List.flatMap_map]
    apply List.flatMap_congr
    intro p hp
    cases hwaits : p.1 with
    | none => rfl
    | some i => exact absurd (lt_of_mem_gather hp hwaits) (Nat.not_lt_zero i)
  rw [hroots]
  exact gather_placements [] symbols

theorem holders_append (earlier front back : List Symbol) :
    holders earlier (front ++ back) =
      holders earlier front ++ holders (front.reverse ++ earlier) back := by
  induction front generalizing earlier with
  | nil => rfl
  | cons s rest ih =>
    rw [List.cons_append, holders, ih, holders, List.reverse_cons, List.append_assoc]
    rfl

theorem snd_mem_of_mem_holders {earlier symbols : List Symbol} {p : Option Symbol × Symbol}
    (h : p ∈ holders earlier symbols) : p.2 ∈ symbols := by
  induction symbols generalizing earlier with
  | nil => cases h
  | cons s rest ih =>
    rcases List.mem_cons.mp h with rfl | h
    · exact List.mem_cons_self
    · exact List.mem_cons_of_mem _ (ih h)

/-- A symbol that was given once stands at one place of the outline, below its holder. -/
theorem outline_placements_of_nodup {front back : List Symbol} {s : Symbol}
    (honce : (front ++ s :: back).Nodup) :
    (placements none (outline (front ++ s :: back))).filter (fun p => p.2 = s) =
      [(front.reverse.find? fun outer => holds outer s, s)] := by
  obtain ⟨-, hown, hapart⟩ := List.nodup_append.mp honce
  have hothers : ∀ {earlier symbols : List Symbol}, s ∉ symbols →
      (holders earlier symbols).filter (fun p => p.2 = s) = [] := by
    intro earlier symbols habsent
    refine List.filter_eq_nil_iff.mpr fun p hp hsame => habsent ?_
    exact of_decide_eq_true hsame ▸ snd_mem_of_mem_holders hp
  apply List.perm_singleton.mp
  refine ((outline_placements _).filter _).trans ?_
  rw [holders_append, List.filter_append, hothers fun h => hapart s h s List.mem_cons_self rfl,
    holders, List.filter_cons, hothers (List.nodup_cons.mp hown).1, List.append_nil]
  simp

/-- The latest symbol that can hold `s`, by its index. -/
theorem find?_reverse_eq_some {front : List Symbol} {outer s : Symbol} {c : Nat}
    (hget : front[c]? = some outer) (hfits : holds outer s = true)
    (hlatest : ∀ j between, c < j → front[j]? = some between → holds between s = false) :
    (front.reverse.find? fun outer => holds outer s) = some outer := by
  obtain ⟨hknown, rfl⟩ := List.getElem?_eq_some_iff.mp hget
  refine List.find?_eq_some_iff_getElem.mpr ⟨hfits, front.length - 1 - c, ?_, ?_, ?_⟩
  · rw [List.length_reverse]
    omega
  · rw [List.getElem_reverse]
    congr 1
    omega
  · intro j hj
    rw [List.getElem_reverse, hlatest (front.length - 1 - j) _ (by omega)
      (List.getElem?_eq_getElem _)]
    rfl

end Outline

/-! ### The outline of a text -/

/-- The symbols of a text, as the index holds them. -/
def Source.symbols (uri : Uri) (text : List Char) : List Symbol :=
  (Source.declarations text).map (Symbol.ofDeclaration uri)

/-- A declaration that ends above the line of another does not enclose it. -/
theorem Outline.holds_eq_false_of_above {uri : Uri} {d inner : Declaration}
    (habove : d.span.stop.line < inner.span.start.line)
    (hupright : inner.span.start.line ≤ inner.span.stop.line) (hpositive : 0 < d.span.stop.line) :
    Outline.holds (.ofDeclaration uri d) (.ofDeclaration uri inner) = false := by
  have hshort : ¬ inner.span.stop.toPosition ≤ d.span.stop.toPosition := by
    rw [Position.le_iff]
    simp only [Spot.toPosition]
    omega
  simp [Outline.holds, Symbol.ofDeclaration, Range.encloses, Span.toRange, hshort]

/-- No two declarations of a text start on one line, so no two symbols are the same. -/
theorem Source.symbols_nodup (uri : Uri) (text : List Char) : (Source.symbols uri text).Nodup := by
  have hsound := Source.declarations_sound text
  refine List.pairwise_map.mpr (hsound.ordered.imp_of_mem ?_)
  intro a b ha hb hearlier hsame
  have hlines := congrArg (fun s : Symbol => s.range.start.line) hsame
  have := (hsound.reach a ha).1
  simp only [Symbol.ofDeclaration, Span.toRange, Spot.toPosition] at hlines
  omega

/-- The holder of a declaration is the owner of the block in which it was made. -/
theorem Source.PlacedIn.holder {uri : Uri} {text : List Char} {i c : Nat} {inner outer : Symbol}
    (hplaced : Source.PlacedIn text i c) (hinner : (Source.symbols uri text)[i]? = some inner)
    (houter : (Source.symbols uri text)[c]? = some outer)
    (henclosed : outer.range.encloses inner.range) :
    (((Source.symbols uri text).take i).reverse.find? fun s => Outline.holds s inner) =
      some outer := by
  obtain ⟨d, o, hd, ho, hbefore, hparent, hbetween⟩ := hplaced.owner
  have hsound := Source.declarations_sound text
  simp only [Source.symbols, List.getElem?_map, hd, ho, Option.map_some,
    Option.some.injEq] at hinner houter
  subst hinner houter
  apply Outline.find?_reverse_eq_some
  · rw [List.getElem?_take_of_lt hbefore, Source.symbols, List.getElem?_map, ho]
    rfl
  · simp only [Outline.holds, henclosed, Bool.and_true, beq_iff_eq]
    exact hparent
  · -- everything made in between has ended above the line
    intro j s hlater hget
    have hearly : j < i := by
      have hknown := (List.getElem?_eq_some_iff.mp hget).1
      rw [List.length_take] at hknown
      omega
    rw [List.getElem?_take_of_lt hearly, Source.symbols, List.getElem?_map] at hget
    obtain ⟨e, he, rfl⟩ := Option.map_eq_some_iff.mp hget
    obtain ⟨-, hupright, -⟩ := hsound.reach d (List.mem_of_getElem? hd)
    obtain ⟨hpositive, hended, -⟩ := hsound.reach e (List.mem_of_getElem? he)
    exact Outline.holds_eq_false_of_above (hbetween j e hlater hearly he) hupright
      (Nat.lt_of_lt_of_le hpositive hended)

/-- The outline of a text shows a declaration once, and directly below the one in whose block it
was made if that one encloses it, whatever names the others have. A block that is never closed
encloses nothing below its own line. -/
theorem outline_shows_blocks (uri : Uri) (text : List Char) (i c : Nat)
    (hplaced : Source.PlacedIn text i c) :
    ∃ inner outer, (Source.symbols uri text)[i]? = some inner ∧
      (Source.symbols uri text)[c]? = some outer ∧ (Source.symbols uri text).Nodup ∧
      (outer.range.encloses inner.range →
        (Outline.placements none (outline (Source.symbols uri text))).filter
          (fun place => place.2 = inner) = [(some outer, inner)]) := by
  obtain ⟨d, o, hd, ho, -⟩ := hplaced.owner
  have hinner : (Source.symbols uri text)[i]? = some (.ofDeclaration uri d) := by
    rw [Source.symbols, List.getElem?_map, hd]
    rfl
  have houter : (Source.symbols uri text)[c]? = some (.ofDeclaration uri o) := by
    rw [Source.symbols, List.getElem?_map, ho]
    rfl
  have honce := Source.symbols_nodup uri text
  refine ⟨_, _, hinner, houter, honce, fun henclosed => ?_⟩
  rw [← hplaced.holder hinner houter henclosed]
  obtain ⟨hknown, hget⟩ := List.getElem?_eq_some_iff.mp hinner
  have hsplit : Source.symbols uri text =
      (Source.symbols uri text).take i ++ .ofDeclaration uri d ::
        (Source.symbols uri text).drop (i + 1) := by
    rw [← hget, List.getElem_cons_drop, List.take_append_drop]
  generalize (Source.symbols uri text).take i = front at *
  generalize (Source.symbols uri text).drop (i + 1) = back at *
  rw [hsplit] at honce ⊢
  exact Outline.outline_placements_of_nodup honce

namespace OutlineWitness

/-- Two classes inside a third, all of one name, each of the two with a member. -/
def text : List Char :=
  ("class A \x7b\n  class A \x7b\n    int x\n  \x7d\n" ++
    "  class A \x7b\n    int y\n  \x7d\n\x7d").toList

def uri : Uri := ⟨"file:///a.groovy"⟩

/-- The second of the two classes. -/
def owner : Symbol := ⟨uri, "A", .classType, ⟨⟨4, 8⟩, ⟨6, 3⟩⟩, some "A", none⟩

def member : Symbol := ⟨uri, "y", .property, ⟨⟨5, 8⟩, ⟨5, 9⟩⟩, some "A", some "int"⟩

/-- The member stands below the class around it, though an earlier class has the same name and the
outermost one has it too and encloses the member. -/
theorem outline_shows_blocks_same_name :
    Source.PlacedIn text 4 3 ∧ owner.range.encloses member.range ∧
      (Outline.placements none (outline (Source.symbols uri text))).filter
        (fun place => place.2 = member) = [(some owner, member)] := by
  have hplaced : Source.PlacedIn text 4 3 :=
    ⟨(Text.lines text).take 5, "    int y".toList, (Text.lines text).drop 6, by decide +kernel,
      by decide +kernel, by decide +kernel, by decide +kernel⟩
  obtain ⟨inner, outer, hinner', houter', -, hbelow⟩ := outline_shows_blocks uri text 4 3 hplaced
  have hinner : (Source.symbols uri text)[4]? = some member := by decide +kernel
  have houter : (Source.symbols uri text)[3]? = some owner := by decide +kernel
  cases Option.some.inj (hinner.symm.trans hinner')
  cases Option.some.inj (houter.symm.trans houter')
  exact ⟨hplaced, by decide, hbelow (by decide)⟩

end OutlineWitness

end PipelineServer
