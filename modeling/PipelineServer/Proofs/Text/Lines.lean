import Mathlib.Data.List.Induction
import PipelineServer.Text.Lines

/-!
Where the lines of a text stand in it.
-/

namespace PipelineServer.Text

/-- A text that consists of whole lines. -/
def Whole (above : List Char) : Prop := above = [] ∨ ['\n'] <:+ above

theorem Whole.behind_line {above : List Char} (line : List Char) (hwhole : Whole above) :
    Whole (line ++ '\n' :: above) := by
  right
  rcases hwhole with rfl | ⟨front, rfl⟩
  · exact List.suffix_append ..
  · exact ⟨line ++ '\n' :: front, by simp⟩

/-- Every text is whole lines and the start of one more. -/
theorem exists_whole (front : List Char) :
    ∃ above line, front = above ++ line ∧ Whole above ∧ '\n' ∉ line := by
  induction front using List.reverseRecOn with
  | nil => exact ⟨[], [], rfl, .inl rfl, List.not_mem_nil⟩
  | append_singleton front c ih =>
    by_cases hc : c = '\n'
    · subst hc
      exact ⟨front ++ ['\n'], [], by simp, .behind_line front (.inl rfl), List.not_mem_nil⟩
    · obtain ⟨above, line, rfl, hwhole, hplain⟩ := ih
      refine ⟨above, line ++ [c], by simp, hwhole, ?_⟩
      simp [hplain, Ne.symm hc]

/-- What whole lines end in is whole lines. -/
theorem Whole.of_append {front rest : List Char} (hwhole : Whole (front ++ rest)) : Whole rest := by
  rcases hwhole with hempty | hends
  · exact .inl (List.append_eq_nil_iff.mp hempty).2
  · by_cases hfilled : rest = []
    · exact .inl hfilled
    · right
      apply List.suffix_of_suffix_length_le hends (List.suffix_append ..)
      exact List.length_pos_iff.mpr hfilled

/-- Taking the first character off whole lines leaves whole lines, at least one if it was no
newline. -/
theorem Whole.tail {c : Char} {above : List Char} (hwhole : Whole (c :: above)) :
    Whole above ∧ (c = '\n' ∨ '\n' ∈ above) := by
  rcases hwhole with habsurd | hwhole
  · cases habsurd
  · rcases List.suffix_cons_iff.mp hwhole with hsame | hwhole
    · obtain ⟨rfl, rfl⟩ := List.cons.inj hsame
      exact ⟨.inl rfl, .inl rfl⟩
    · exact ⟨.inr hwhole, .inr (hwhole.mem List.mem_cons_self)⟩

/-- Dropping a carriage return takes at most that off the end of a line. -/
theorem exists_dropReturn (line : List Char) :
    ∃ ending, line.reverse = (dropReturn line).reverse ++ ending ∧
      (ending = [] ∨ ending = ['\r']) := by
  unfold dropReturn
  split
  · exact ⟨['\r'], List.reverse_cons, .inr rfl⟩
  · exact ⟨[], (List.append_nil _).symm, .inl rfl⟩

theorem exists_first_linesFrom {start text : List Char} (hplain : '\n' ∉ start)
    (hnonempty : start.reverse ++ text ≠ []) :
    ∃ line ending rest, start.reverse ++ text = line ++ (ending ++ rest) ∧ '\n' ∉ line ∧
      linesFrom start text = line :: lines rest ∧
      (ending = ['\n'] ∨ ending = ['\r', '\n'] ∨ (ending = [] ∧ rest = [])) := by
  induction text generalizing start with
  | nil =>
    have hfilled : start.isEmpty = false := by
      rw [List.isEmpty_eq_false_iff]
      simpa using hnonempty
    refine ⟨start.reverse, [], [], rfl, by simpa using hplain, ?_, .inr (.inr ⟨rfl, rfl⟩)⟩
    rw [linesFrom, hfilled]
    rfl
  | cons c text ih =>
    by_cases hnewline : c = '\n'
    · subst hnewline
      obtain ⟨ending, hdropped, hcases⟩ := exists_dropReturn start
      refine ⟨(dropReturn start).reverse, ending ++ ['\n'], text, ?_, ?_, ?_, ?_⟩
      · rw [hdropped]
        simp
      · intro hinside
        apply hplain
        rw [← List.mem_reverse, hdropped]
        exact List.mem_append_left _ hinside
      · rw [linesFrom, if_pos rfl]
        rfl
      · rcases hcases with rfl | rfl
        · exact .inl rfl
        · exact .inr (.inl rfl)
    · have hplain : '\n' ∉ c :: start := by simp [hplain, Ne.symm hnewline]
      obtain ⟨line, ending, rest, hsplit, hinside, hlines, hends⟩ := ih hplain (by simp)
      refine ⟨line, ending, rest, by simpa using hsplit, hinside, ?_, hends⟩
      rw [linesFrom, if_neg hnewline, hlines]

/-- The first line of a text, what ends it, and the lines behind it. -/
theorem exists_first_line {text : List Char} (hnonempty : text ≠ []) :
    ∃ line ending rest, text = line ++ (ending ++ rest) ∧ '\n' ∉ line ∧
      lines text = line :: lines rest ∧
      (ending = ['\n'] ∨ ending = ['\r', '\n'] ∨ (ending = [] ∧ rest = [])) :=
  exists_first_linesFrom List.not_mem_nil hnonempty

theorem linesFrom_append {start above : List Char} (text : List Char) (hwhole : Whole above)
    (hrest : above = [] → start = []) :
    linesFrom start (above ++ text) = linesFrom start above ++ lines text := by
  induction above generalizing start with
  | nil =>
    rw [hrest rfl]
    rfl
  | cons c above ih =>
    obtain ⟨hwhole, hmore⟩ := hwhole.tail
    rw [List.cons_append, linesFrom, linesFrom]
    split
    · rw [ih hwhole fun _ => rfl]
      rfl
    · next hother =>
      refine ih hwhole fun hlast => ?_
      rw [hlast] at hmore
      exact absurd (hmore.resolve_right List.not_mem_nil) hother

/-- Whole lines in front of a text are lines for themselves. -/
theorem lines_append_of_whole {above : List Char} (text : List Char) (hwhole : Whole above) :
    lines (above ++ text) = lines above ++ lines text :=
  linesFrom_append text hwhole fun _ => rfl

theorem ne_nil_of_lines {text line : List Char} {before after : List (List Char)}
    (hsplit : lines text = before ++ line :: after) : text ≠ [] := by
  rintro rfl
  cases before <;> cases hsplit

/-- A line of a text stands behind as many whole lines as come before it. -/
theorem exists_above_of_lines {text line : List Char} {before after : List (List Char)}
    (hsplit : lines text = before ++ line :: after) :
    ∃ above rest, text = above ++ line ++ rest ∧ Whole above ∧
      above.count '\n' = before.length ∧ '\n' ∉ line := by
  induction before generalizing text with
  | nil =>
    obtain ⟨first, ending, rest, rfl, hplain, hlines, -⟩ :=
      exists_first_line (ne_nil_of_lines hsplit)
    obtain ⟨rfl, -⟩ := List.cons.inj (hlines.symm.trans hsplit)
    exact ⟨[], ending ++ rest, rfl, .inl rfl, List.count_nil, hplain⟩
  | cons head before ih =>
    obtain ⟨first, ending, rest, rfl, hplain, hlines, hends⟩ :=
      exists_first_line (ne_nil_of_lines hsplit)
    obtain ⟨-, hsplit⟩ := List.cons.inj (hlines.symm.trans hsplit)
    have hfurther := ne_nil_of_lines hsplit
    obtain ⟨above, below, rfl, hwhole, hcount, hinside⟩ := ih hsplit
    have hnone : first.count '\n' = 0 := List.count_eq_zero_of_not_mem hplain
    rcases hends with rfl | rfl | ⟨-, hlast⟩
    · refine ⟨first ++ '\n' :: above, below, by simp, hwhole.behind_line _, ?_, hinside⟩
      rw [List.count_append, List.count_cons_self, hnone, hcount, Nat.zero_add, List.length_cons]
    · refine ⟨first ++ ['\r'] ++ '\n' :: above, below, by simp, hwhole.behind_line _, ?_, hinside⟩
      rw [List.count_append, List.count_append, List.count_cons_self, hnone, hcount,
        List.length_cons]
      exact Nat.zero_add _
    · exact absurd hlast hfurther

end PipelineServer.Text
