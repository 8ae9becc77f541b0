import Mathlib.Order.Bounds.Basic
import PipelineServer.Editor.Document
import PipelineServer.Proofs.Text.Offset

/-!
How positions are decoded, and what an edit leaves as it is.

A line of a text is the places with as many newlines in front of them as there are lines above it.
A position leads to the first place of its line with enough code units in front of it, or to the end
of the line (`Lands`). Places in order are decoded in order, so an edit replaces a stretch between
two characters of the text, whatever range it names.
-/

namespace PipelineServer

namespace Text

/-- The byte offsets of the places in line `n`, from its start to its newline or the end of the
text. -/
def linePlaces (text : List Char) (n : Nat) : Set Nat :=
  {o | ∃ front, front <+: text ∧ front.count '\n' = n ∧ utf8Width front = o}

/-- The byte offsets of the places in the line of a position in front of which the line has at least
as many code units as the column of the position. -/
def reachedPlaces (text : List Char) (p : Position) : Set Nat :=
  {o | ∃ front, front <+: text ∧ front.count '\n' = p.line ∧
    p.character ≤ utf16Width (lastLine front) ∧ utf8Width front = o}

/-- The byte offset of a position, or the length of the text if it has no such line. -/
def offsetOrEnd (text : List Char) (p : Position) : Nat := (offset? text p).getD (utf8Width text)

/-- The position leads to the place between `front` and `rest`: the line has enough code units in
front of it or ends there, and too few in front of every earlier place of the line. -/
structure Lands (text : List Char) (p : Position) (front rest : List Char) : Prop where
  split : text = front ++ rest
  line : front.count '\n' = p.line
  enough : p.character ≤ utf16Width (lastLine front) ∨ ∀ c ∈ rest.head?, c = '\n'
  fewer : ∀ start, start <+: front → start ≠ front → start.count '\n' = p.line →
    utf16Width (lastLine start) < p.character

theorem utf8Width_mono {front text : List Char} (h : front <+: text) :
    utf8Width front ≤ utf8Width text := by
  obtain ⟨rest, rfl⟩ := h
  rw [utf8Width_append]
  exact Nat.le_add_right _ _

theorem skipLines?_eq_none_iff {n : Nat} {text : List Char} :
    skipLines? n text = none ↔ text.count '\n' < n := by
  fun_induction skipLines? n text with
  | case1 => simp
  | case2 => simp
  | case3 n rest ih => rw [ih, List.count_cons_self, Nat.add_lt_add_iff_right]
  | case4 n c rest hother ih => rw [ih, List.count_cons_of_ne hother]

/-- What is left behind some lines stands behind whole lines. -/
theorem exists_above_of_skipLines? {n : Nat} {text below : List Char}
    (h : skipLines? n text = some below) :
    ∃ above, text = above ++ below ∧ Whole above ∧ above.count '\n' = n := by
  fun_induction skipLines? n text with
  | case1 text =>
    cases h
    exact ⟨[], rfl, .inl rfl, List.count_nil⟩
  | case2 => cases h
  | case3 n rest ih =>
    obtain ⟨above, rfl, hwhole, hcount⟩ := ih h
    exact ⟨'\n' :: above, rfl, hwhole.behind_line [], by rw [List.count_cons_self, hcount]⟩
  | case4 n c rest hother ih =>
    obtain ⟨above, rfl, hwhole, hcount⟩ := ih h
    refine ⟨c :: above, rfl, ?_, by rw [List.count_cons_of_ne hother, hcount]⟩
    rcases hwhole with rfl | hends
    · cases hcount
    · exact .inr (List.suffix_cons_iff.mpr (.inr hends))

/-- Going into a line stops at the first place with enough code units in front of it, or where the
line ends. -/
theorem exists_passed (n : Nat) (text : List Char) :
    ∃ passed, text = passed ++ skipUnits n text ∧ '\n' ∉ passed ∧
      (n ≤ utf16Width passed ∨ ∀ c ∈ (skipUnits n text).head?, c = '\n') ∧
      ∀ start, start <+: passed → start ≠ passed → utf16Width start < n := by
  induction text generalizing n with
  | nil =>
    refine ⟨[], by cases n <;> rfl, List.not_mem_nil, .inr (by cases n <;> simp [skipUnits]), ?_⟩
    intro start hinit hother
    exact absurd (List.prefix_nil.mp hinit) hother
  | cons c text ih =>
    cases n with
    | zero =>
      refine ⟨[], by rw [skipUnits]; rfl, List.not_mem_nil, .inl (Nat.zero_le _), ?_⟩
      intro start hinit hother
      exact absurd (List.prefix_nil.mp hinit) hother
    | succ n =>
      by_cases hnewline : c = '\n'
      · rw [skipUnits, if_pos hnewline]
        refine ⟨[], rfl, List.not_mem_nil, .inr (by simp [hnewline]), ?_⟩
        intro start hinit hother
        exact absurd (List.prefix_nil.mp hinit) hother
      · rw [skipUnits, if_neg hnewline]
        obtain ⟨passed, hsplit, hplain, henough, hfewer⟩ := ih (n + 1 - utf16Length c)
        refine ⟨c :: passed, congrArg (c :: ·) hsplit, by simp [hplain, Ne.symm hnewline], ?_, ?_⟩
        · refine henough.imp_left fun henough => ?_
          rw [utf16Width]
          omega
        · intro start hinit hother
          rcases List.prefix_cons_iff.mp hinit with rfl | ⟨start, rfl, hinner⟩
          · exact Nat.succ_pos n
          · have := hfewer start hinner fun hsame => hother (congrArg (c :: ·) hsame)
            rw [utf16Width]
            omega

/-- A start of some whole lines and what follows has as many newlines as the lines only if it
reaches over all of them. -/
theorem exists_of_prefix_whole {above text start : List Char} (hwhole : Whole above)
    (hinit : start <+: above ++ text) (hcount : start.count '\n' = above.count '\n') :
    ∃ line, start = above ++ line ∧ line <+: text := by
  rcases List.prefix_or_prefix_of_prefix (List.prefix_append above text) hinit with
    ⟨line, rfl⟩ | ⟨missing, rfl⟩
  · exact ⟨line, rfl, (List.prefix_append_right_inj above).mp hinit⟩
  · have hnone : missing.count '\n' = 0 := by
      rw [List.count_append] at hcount
      omega
    rcases hwhole.of_append with rfl | hends
    · exact ⟨[], by simp, List.nil_prefix⟩
    · exact absurd (hends.mem List.mem_cons_self) (List.count_eq_zero.mp hnone)

/-- The place that a position is decoded to. -/
theorem exists_lands {text rest : List Char} {p : Position} (h : after? text p = some rest) :
    ∃ front, Lands text p front rest := by
  obtain ⟨below, hskipped, rfl⟩ := Option.map_eq_some_iff.mp h
  obtain ⟨above, rfl, hwhole, hcount⟩ := exists_above_of_skipLines? hskipped
  obtain ⟨passed, hsplit, hplain, henough, hfewer⟩ := exists_passed p.character below
  refine ⟨above ++ passed, ?_, ?_, ?_, ?_⟩
  · rw [List.append_assoc, ← hsplit]
  · rw [List.count_append, List.count_eq_zero_of_not_mem hplain, hcount]
    rfl
  · rwa [lastLine_append hwhole hplain]
  · intro start hinit hother hlines
    obtain ⟨line, rfl, hinner⟩ := exists_of_prefix_whole hwhole hinit (hlines.trans hcount.symm)
    rw [lastLine_append hwhole fun hnewline => hplain (hinner.mem hnewline)]
    exact hfewer line hinner fun hsame => hother (congrArg (above ++ ·) hsame)

namespace Lands

variable {text front rest start : List Char} {p : Position}

/-- A place of the line with enough code units in front of it is not further left. -/
theorem prefix_of_enough (h : Lands text p front rest) (hinit : start <+: text)
    (hline : start.count '\n' = p.line) (henough : p.character ≤ utf16Width (lastLine start)) :
    front <+: start := by
  rcases List.prefix_or_prefix_of_prefix ⟨rest, h.split.symm⟩ hinit with hfurther | hback
  · exact hfurther
  · by_cases hsame : start = front
    · exact hsame ▸ List.prefix_rfl
    · exact absurd henough (Nat.not_le_of_lt (h.fewer start hback hsame hline))

/-- At the end of the line, no place of the line is further right. -/
theorem prefix_of_ended (h : Lands text p front rest) (hended : ∀ c ∈ rest.head?, c = '\n')
    (hinit : start <+: text) (hline : start.count '\n' = p.line) : start <+: front := by
  rcases List.prefix_or_prefix_of_prefix hinit ⟨rest, h.split.symm⟩ with hback | ⟨more, rfl⟩
  · exact hback
  · rw [h.split, List.prefix_append_right_inj] at hinit
    rw [List.count_append, h.line] at hline
    have hnone : more.count '\n' = 0 := by omega
    cases more with
    | nil => exact ⟨[], by simp⟩
    | cons c more =>
      obtain ⟨behind, rfl⟩ := hinit
      rw [hended c rfl, List.count_cons_self] at hnone
      cases hnone

/-- Decoding is exact. -/
theorem least_or_last (h : Lands text p front rest) :
    IsLeast (reachedPlaces text p) (utf8Width front) ∨
      reachedPlaces text p = ∅ ∧ IsGreatest (linePlaces text p.line) (utf8Width front) := by
  have hinit : front <+: text := ⟨rest, h.split.symm⟩
  by_cases henough : p.character ≤ utf16Width (lastLine front)
  · refine .inl ⟨⟨front, hinit, h.line, henough, rfl⟩, ?_⟩
    rintro o ⟨start, hinit, hline, henough, rfl⟩
    exact utf8Width_mono (h.prefix_of_enough hinit hline henough)
  · have hended := h.enough.resolve_left henough
    refine .inr ⟨Set.eq_empty_of_forall_notMem ?_, ⟨front, hinit, h.line, rfl⟩, ?_⟩
    · rintro o ⟨start, hinit, hline, hmany, rfl⟩
      have hshorter := h.prefix_of_ended hended hinit hline
      have hlonger := h.prefix_of_enough hinit hline hmany
      have hsame : start = front := hshorter.eq_of_length_le hlonger.length_le
      exact henough (hsame ▸ hmany)
    · rintro o ⟨start, hinit, hline, rfl⟩
      exact utf8Width_mono (h.prefix_of_ended hended hinit hline)

/-- Places in order are decoded in order. -/
theorem prefix_of_le {q : Position} {front' rest' : List Char} (hp : Lands text p front rest)
    (hq : Lands text q front' rest') (hle : p ≤ q) : front <+: front' := by
  have hinit : front' <+: text := ⟨rest', hq.split.symm⟩
  rcases hle with habove | ⟨hline, hleft⟩
  · rcases List.prefix_or_prefix_of_prefix ⟨rest, hp.split.symm⟩ hinit with hbefore | hbehind
    · exact hbefore
    · have := hbehind.sublist.count_le '\n'
      rw [hp.line, hq.line] at this
      omega
  · rcases hq.enough with henough | hended
    · exact hp.prefix_of_enough hinit (hq.line.trans hline.symm) (hleft.trans henough)
    · exact hq.prefix_of_ended hended ⟨rest, hp.split.symm⟩ (hp.line.trans hline)

end Lands

theorem offset?_eq_none_iff {text : List Char} {p : Position} :
    offset? text p = none ↔ text.count '\n' < p.line := by
  rw [offset?, Option.map_eq_none_iff, after?, Option.map_eq_none_iff, skipLines?_eq_none_iff]

theorem exists_lands_of_offset? {text : List Char} {p : Position} {o : Nat}
    (h : offset? text p = some o) :
    ∃ front rest, Lands text p front rest ∧ after? text p = some rest ∧ utf8Width front = o := by
  obtain ⟨rest, hafter, rfl⟩ := Option.map_eq_some_iff.mp h
  obtain ⟨front, hlands⟩ := exists_lands hafter
  refine ⟨front, rest, hlands, hafter, ?_⟩
  rw [hlands.split, before_append]

/-- The offset of a position is that of the first place of its line with enough code units in front
of it, or that of the last place of the line if there is no such place. -/
theorem offset?_eq_some_iff {text : List Char} {p : Position} {o : Nat} :
    offset? text p = some o ↔ IsLeast (reachedPlaces text p) o ∨
      reachedPlaces text p = ∅ ∧ IsGreatest (linePlaces text p.line) o := by
  constructor
  · intro h
    obtain ⟨front, rest, hlands, -, rfl⟩ := exists_lands_of_offset? h
    exact hlands.least_or_last
  · intro h
    -- the line exists, so the position is decoded, and there is one such place only
    have hknown : ∃ front, front <+: text ∧ front.count '\n' = p.line := by
      obtain ⟨⟨front, hinit, hline, -⟩, -⟩ | ⟨-, ⟨front, hinit, hline, -⟩, -⟩ := h
      · exact ⟨front, hinit, hline⟩
      · exact ⟨front, hinit, hline⟩
    obtain ⟨front, hinit, hline⟩ := hknown
    have hoffset : offset? text p ≠ none := by
      have := hinit.sublist.count_le '\n'
      rw [Ne, offset?_eq_none_iff]
      omega
    obtain ⟨o', h'⟩ := Option.ne_none_iff_exists'.mp hoffset
    obtain ⟨front', rest, hlands, -, rfl⟩ := exists_lands_of_offset? h'
    rw [h', Option.some.injEq]
    rcases h with hleast | ⟨hnone, hlast⟩ <;>
      rcases hlands.least_or_last with hleast' | ⟨hnone', hlast'⟩
    · exact hleast'.unique hleast
    · exact absurd hleast.1 (hnone' ▸ Set.notMem_empty o)
    · exact absurd hleast'.1 (hnone ▸ Set.notMem_empty _)
    · exact hlast'.unique hlast

/-- Every position is read as a place of the text, the end of the text if it has no such line. -/
theorem exists_front_of_offsetOrEnd (text : List Char) (p : Position) :
    ∃ front, text = front ++ (after? text p).getD [] ∧ utf8Width front = offsetOrEnd text p := by
  rw [offsetOrEnd]
  cases h : offset? text p with
  | none =>
    rw [Option.map_eq_none_iff.mp h]
    exact ⟨text, by simp, rfl⟩
  | some o =>
    obtain ⟨front, rest, hlands, hafter, rfl⟩ := exists_lands_of_offset? h
    rw [hafter]
    exact ⟨front, hlands.split, rfl⟩

theorem offsetOrEnd_le (text : List Char) (p : Position) : offsetOrEnd text p ≤ utf8Width text := by
  obtain ⟨front, hsplit, hwidth⟩ := exists_front_of_offsetOrEnd text p
  rw [← hwidth]
  exact utf8Width_mono ⟨_, hsplit.symm⟩

/-- Positions in order have offsets in order. -/
theorem offsetOrEnd_mono (text : List Char) {p q : Position} (h : p ≤ q) :
    offsetOrEnd text p ≤ offsetOrEnd text q := by
  cases hq : offset? text q with
  | none =>
    rw [offsetOrEnd, offsetOrEnd, hq]
    exact offsetOrEnd_le text p
  | some o =>
    cases hp : offset? text p with
    | none =>
      have hbelow := offset?_eq_none_iff.mp hp
      rw [offset?_eq_none_iff.mpr (Nat.lt_of_lt_of_le hbelow (Position.line_le_of_le h))] at hq
      cases hq
    | some o' =>
      obtain ⟨front, rest, hlands, -, rfl⟩ := exists_lands_of_offset? hp
      obtain ⟨front', rest', hlands', -, rfl⟩ := exists_lands_of_offset? hq
      rw [offsetOrEnd, offsetOrEnd, hp, hq]
      exact utf8Width_mono (hlands.prefix_of_le hlands' h)

/-- Splicing replaces the stretch from the start of the range to its end, or nothing if the end is
in front of the start. -/
theorem exists_splice (text : List Char) (r : Range) (new : List Char) :
    ∃ front between rest, text = front ++ between ++ rest ∧
      splice text r new = front ++ new ++ rest ∧
      utf8Width front = offsetOrEnd text r.start ∧
      utf8Width (front ++ between) =
        max (offsetOrEnd text r.start) (offsetOrEnd text r.stop) := by
  obtain ⟨front, hsplit, hwidth⟩ := exists_front_of_offsetOrEnd text r.start
  obtain ⟨front', hsplit', hwidth'⟩ := exists_front_of_offsetOrEnd text r.stop
  rw [← hwidth, ← hwidth', splice]
  generalize (after? text r.start).getD [] = rest at *
  generalize (after? text r.stop).getD [] = rest' at *
  have hkept : before text rest = front := by rw [hsplit, before_append]
  have hlengths := congrArg List.length (hsplit.symm.trans hsplit')
  rw [List.length_append, List.length_append] at hlengths
  have hinit : front <+: text := ⟨rest, hsplit.symm⟩
  have hinit' : front' <+: text := ⟨rest', hsplit'.symm⟩
  rw [hkept]
  split
  · next hshorter =>
    have hback : front' <+: front := List.prefix_of_prefix_length_le hinit' hinit (by omega)
    refine ⟨front, [], rest, by simpa using hsplit, rfl, rfl, ?_⟩
    rw [List.append_nil, Nat.max_eq_left (utf8Width_mono hback)]
  · next hlonger =>
    obtain ⟨between, rfl⟩ : front <+: front' :=
      List.prefix_of_prefix_length_le hinit hinit' (by omega)
    refine ⟨front, between, rest', hsplit', rfl, rfl, ?_⟩
    rw [Nat.max_eq_right (utf8Width_mono (List.prefix_append front between))]

theorem utf8ByteSize_ofList (chars : List Char) :
    (String.ofList chars).utf8ByteSize = utf8Width chars := by
  induction chars with
  | nil => rfl
  | cons c chars ih =>
    rw [String.ofList_cons, String.utf8ByteSize_append, String.utf8ByteSize_singleton, ih,
      utf8Width]

end Text

namespace Document

open Text

/-- A position has no offset exactly if its line is not in the text; else its offset is that of the
first place of the line with enough code units in front of it, or of the end of the line if there
is none. The order of positions is kept, a missing offset read as the length of the text. So an edit
of any range replaces a stretch of the text between two characters, which starts at the offset of
the range's start and ends at that of its end or, if that lies in front, where it starts. -/
theorem positions_decoded_and_spliced (d : Document) :
    (∀ p, offset? d.text.toList p = none ↔ d.text.toList.count '\n' < p.line) ∧
      (∀ p o, offset? d.text.toList p = some o ↔
        IsLeast (reachedPlaces d.text.toList p) o ∨
          reachedPlaces d.text.toList p = ∅ ∧ IsGreatest (linePlaces d.text.toList p.line) o) ∧
      (∀ p q, p ≤ q → offsetOrEnd d.text.toList p ≤ offsetOrEnd d.text.toList q) ∧
      ∀ (r : Range) (new : String), ∃ front between rest : String,
        d.text = front ++ between ++ rest ∧
        (d.apply ⟨some r, new⟩).text = front ++ new ++ rest ∧
        front.utf8ByteSize = offsetOrEnd d.text.toList r.start ∧
        (front ++ between).utf8ByteSize =
          max (offsetOrEnd d.text.toList r.start) (offsetOrEnd d.text.toList r.stop) := by
  refine ⟨fun p => offset?_eq_none_iff, fun p o => offset?_eq_some_iff,
    fun p q h => offsetOrEnd_mono _ h, fun r new => ?_⟩
  obtain ⟨front, between, rest, hsplit, hspliced, hstarts, hstops⟩ :=
    exists_splice d.text.toList r new.toList
  refine ⟨.ofList front, .ofList between, .ofList rest, ?_, ?_, ?_, ?_⟩
  · rw [← String.ofList_append, ← String.ofList_append, ← hsplit, String.ofList_toList]
  · change String.ofList (splice d.text.toList r new.toList) = _
    rw [hspliced, String.ofList_append, String.ofList_append, String.ofList_toList]
  · rw [utf8ByteSize_ofList, hstarts]
  · rw [← String.ofList_append, utf8ByteSize_ofList, hstops]

/-- A column between the two code units of a character leads behind the character. -/
example : offset? "a😀b\n".toList ⟨0, 2⟩ = some 5 := by decide

end Document

end PipelineServer
