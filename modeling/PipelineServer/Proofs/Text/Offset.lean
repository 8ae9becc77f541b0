import PipelineServer.Proofs.Text.Buffer
import PipelineServer.Proofs.Text.Lines

/-!
Columns counted in characters, read as columns in code units.

A place in a text is its line and the number of characters in front of it on that line. Read as an
editor position it is the same place if no character there takes two code units, apart from the
last one (`offset?_eq_iff`); otherwise it is a place further left.
-/

namespace PipelineServer.Text

/-- What a text holds behind its last newline. -/
def lastLine (front : List Char) : List Char := (front.reverse.takeWhile (· != '\n')).reverse

/-- No character of the last line takes two code units, apart from the last one. -/
def Narrow (front : List Char) : Prop := ∀ c ∈ (lastLine front).dropLast, utf16Length c = 1

instance (front : List Char) : Decidable (Narrow front) :=
  inferInstanceAs (Decidable (∀ c ∈ (lastLine front).dropLast, utf16Length c = 1))

theorem lastLine_append {above line : List Char} (hwhole : Whole above) (hplain : '\n' ∉ line) :
    lastLine (above ++ line) = line := by
  have hchars : ∀ c ∈ line.reverse, (c != '\n') = true := by
    intro c hc
    rw [bne_iff_ne]
    rintro rfl
    exact hplain (List.mem_reverse.mp hc)
  rw [lastLine, List.reverse_append, List.takeWhile_append_of_pos hchars]
  rcases hwhole with rfl | ⟨front, rfl⟩
  · simp
  · simp

theorem skipLines?_whole {above : List Char} (hwhole : Whole above) (rest : List Char) :
    skipLines? (above.count '\n') (above ++ rest) = some rest := by
  induction above with
  | nil => rw [List.count_nil, List.nil_append, skipLines?]
  | cons c above ih =>
    obtain ⟨hfurther, hnewline⟩ := hwhole.tail
    by_cases hc : c = '\n'
    · rw [hc, List.count_cons_self, List.cons_append, skipLines?, if_pos rfl, ih hfurther]
    · have hleft : above.count '\n' ≠ 0 :=
        Nat.ne_of_gt (List.count_pos_iff.mpr (hnewline.resolve_left hc))
      obtain ⟨n, hn⟩ := Nat.exists_eq_succ_of_ne_zero hleft
      rw [List.count_cons_of_ne hc, hn, List.cons_append, skipLines?, if_neg hc,
        ← Nat.succ_eq_add_one, ← hn, ih hfurther]

/-- Going `n` code units into a line of at least `n` characters ends in the line, and behind it
just if the line has `n` characters and no wide one in front of the last. -/
theorem skipUnits_line {line : List Char} {n : Nat} (hplain : '\n' ∉ line) (hfits : n ≤ line.length)
    (rest : List Char) :
    ∃ passed left, line = passed ++ left ∧ skipUnits n (line ++ rest) = left ++ rest ∧
      (left = [] ↔ n = line.length ∧ ∀ c ∈ line.dropLast, utf16Length c = 1) := by
  induction line generalizing n with
  | nil =>
    obtain rfl : n = 0 := Nat.le_zero.mp hfits
    exact ⟨[], [], rfl, by rw [skipUnits], by simp⟩
  | cons c line ih =>
    rw [List.mem_cons, not_or] at hplain
    have hpositive := utf16Length_pos c
    cases n with
    | zero => exact ⟨[], c :: line, rfl, by rw [skipUnits], by simp⟩
    | succ n =>
      rw [List.length_cons] at hfits
      obtain ⟨passed, left, rfl, hskipped, hended⟩ :=
        ih (n := n + 1 - utf16Length c) hplain.2 (by omega)
      refine ⟨c :: passed, left, rfl, ?_, ?_⟩
      · rw [List.cons_append, skipUnits, if_neg (Ne.symm hplain.1), hskipped]
      · rw [hended, List.length_cons]
        generalize passed ++ left = line at *
        cases line with
        | nil =>
          rw [List.length_nil] at hfits
          simp only [List.length_nil, List.dropLast_nil, List.dropLast_singleton,
            List.not_mem_nil, false_implies, implies_true, and_true]
          omega
        | cons d line =>
          rw [List.dropLast_cons_cons, List.forall_mem_cons, ← and_assoc]
          refine and_congr_left fun _ => ?_
          rw [List.length_cons] at *
          omega

/-- A place given by whole lines and the characters of the line in front of it, read as an editor
position. -/
theorem offset?_eq_iff {above line : List Char} (hwhole : Whole above) (hplain : '\n' ∉ line)
    (rest : List Char) :
    offset? (above ++ line ++ rest) ⟨above.count '\n', line.length⟩ =
        some (utf8Width (above ++ line)) ↔
      ∀ c ∈ line.dropLast, utf16Length c = 1 := by
  obtain ⟨passed, left, hsplit, hskipped, hended⟩ := skipUnits_line hplain (Nat.le_refl _) rest
  have hoffset : offset? (above ++ line ++ rest) ⟨above.count '\n', line.length⟩ =
      some (utf8Width (above ++ passed)) := by
    rw [offset?, after?, List.append_assoc, skipLines?_whole hwhole, Option.map_some, hskipped,
      Option.map_some]
    nth_rewrite 1 [hsplit]
    rw [List.append_assoc, ← List.append_assoc above, before_append]
  have hwidth : utf8Width (above ++ line) = utf8Width (above ++ passed) + utf8Width left := by
    rw [← utf8Width_append, List.append_assoc, ← hsplit]
  rw [hoffset, Option.some.injEq, hwidth]
  refine Iff.trans ?_ (hended.trans (and_iff_right rfl))
  cases left with
  | nil => simp [utf8Width]
  | cons c left =>
    have := c.utf8Size_pos
    simp only [utf8Width, reduceCtorEq, iff_false]
    omega

end PipelineServer.Text
