import Mathlib.Data.List.Nodup
import Mathlib.Data.Prod.Lex
import PipelineServer.Proofs.Source.Places

/-!
The order of what the scan finds.

Places are ordered as a text is read. The scan finds things in the order in which they begin, since
a step reports either the character it takes or the place at which its mode began, and nothing is
reported in between (`Mode.since`).
-/

namespace PipelineServer

namespace Spot

/-- Line first, then column. -/
instance : PartialOrder Spot :=
  PartialOrder.lift (fun s => toLex (s.line, s.column)) fun a b hsame => by
    have hboth : (a.line, a.column) = (b.line, b.column) := toLex_inj.mp hsame
    exact Spot.ext (congrArg Prod.fst hboth) (congrArg Prod.snd hboth)

theorem lt_iff {a b : Spot} : a < b ↔ a.line < b.line ∨ a.line = b.line ∧ a.column < b.column :=
  Prod.Lex.toLex_lt_toLex

theorem le_iff {a b : Spot} : a ≤ b ↔ a.line < b.line ∨ a.line = b.line ∧ a.column ≤ b.column :=
  Prod.Lex.toLex_le_toLex

theorem lt_next (s : Spot) (c : Char) : s < s.next c := by
  unfold next
  rw [lt_iff]
  split
  · exact .inl (Nat.lt_succ_self _)
  · exact .inr ⟨rfl, Nat.lt_succ_self _⟩

end Spot

namespace Source

/-- A place is counted from one: the newlines in front of it, and the characters on its line. -/
theorem behind_first (front : List Char) :
    behind .first front = ⟨front.count '\n' + 1, (Text.lastLine front).length + 1⟩ := by
  obtain ⟨above, line, rfl, hwhole, hplain⟩ := Text.exists_whole front
  rw [behind_append, behind_whole hwhole, behind_of_plain _ hplain,
    Text.lastLine_append hwhole hplain, List.count_append, List.count_eq_zero.mpr hplain,
    Nat.add_comm 1]

/-! ### Tokens -/

/-- Where a finding begins. -/
def Token.start : Token → Spot
  | .delimiter _ spot => spot
  | .openText start _ => start
  | .openComment start => start

/-- A string is not cut off before it begins. -/
def Token.Forward : Token → Prop
  | .openText start stop => start ≤ stop
  | _ => True

/-- The first place that the scan can still report. -/
def Mode.since (spot : Spot) : Mode → Spot
  | .code | .lineComment => spot
  | .blockComment start => start
  | .text _ _ start => start

section Step

variable {spot : Spot} {c : Char} {rest : List Char} {mode mode' : Mode} {skip : Nat}
  {found : List Token}

/-- What has been begun before a character has been begun before the next one. -/
theorem Step.since_le (hstep : Step spot c rest mode skip found mode')
    (hbegun : mode.since spot ≤ spot) :
    mode.since spot ≤ mode'.since (spot.next c) ∧ mode'.since (spot.next c) ≤ spot.next c := by
  have honward : spot ≤ spot.next c := (spot.lt_next c).le
  cases hstep with
  | stays =>
    cases mode with
    | code => exact ⟨honward, le_rfl⟩
    | lineComment => exact ⟨honward, le_rfl⟩
    | blockComment start => exact ⟨le_rfl, hbegun.trans honward⟩
    | text quote triple start => exact ⟨le_rfl, hbegun.trans honward⟩
  | ends => exact ⟨hbegun.trans honward, le_rfl⟩
  | line => exact ⟨honward, le_rfl⟩
  | comment => exact ⟨le_rfl, honward⟩
  | string => exact ⟨le_rfl, honward⟩
  | delimiter => exact ⟨honward, le_rfl⟩
  | cut => exact ⟨hbegun.trans honward, le_rfl⟩

/-- A step reports at most one thing, and from then on only what begins behind it. -/
theorem Step.found_lt (hstep : Step spot c rest mode skip found mode')
    (hbegun : mode.since spot ≤ spot) :
    found.Pairwise (fun t u => t.start < u.start) ∧
      ∀ token ∈ found, token.Forward ∧ mode.since spot ≤ token.start ∧
        token.start < mode'.since (spot.next c) := by
  cases hstep with
  | delimiter =>
    refine ⟨List.pairwise_singleton .., List.forall_mem_singleton.mpr ?_⟩
    exact ⟨trivial, le_rfl, spot.lt_next c⟩
  | cut =>
    refine ⟨List.pairwise_singleton .., List.forall_mem_singleton.mpr ?_⟩
    exact ⟨hbegun, le_rfl, hbegun.trans_lt (spot.lt_next c)⟩
  | _ => exact ⟨.nil, by simp⟩

end Step

theorem scan_ordered {mode : Mode} {spot : Spot} (skip : Nat) (text : List Char)
    (hbegun : mode.since spot ≤ spot) :
    (scan mode skip spot text).Pairwise (fun t u => t.start < u.start) ∧
      ∀ token ∈ scan mode skip spot text, token.Forward ∧ mode.since spot ≤ token.start := by
  induction text generalizing mode skip spot with
  | nil =>
    rw [scan_nil]
    cases mode with
    | code => exact ⟨.nil, by simp [Mode.leftOpen]⟩
    | lineComment => exact ⟨.nil, by simp [Mode.leftOpen]⟩
    | blockComment start =>
      exact ⟨List.pairwise_singleton .., List.forall_mem_singleton.mpr ⟨trivial, le_rfl⟩⟩
    | text quote triple start =>
      exact ⟨List.pairwise_singleton .., List.forall_mem_singleton.mpr ⟨hbegun, le_rfl⟩⟩
  | cons c text ih =>
    obtain ⟨found, hstep, hscanned⟩ := scan_after mode skip spot c text
    obtain ⟨hsince, hbegun'⟩ := hstep.since_le hbegun
    obtain ⟨hnowOrdered, hnow⟩ := hstep.found_lt hbegun
    obtain ⟨hlaterOrdered, hlater⟩ := ih (mode.after skip spot c text).2 hbegun'
    rw [hscanned]
    constructor
    · refine List.pairwise_append.mpr ⟨hnowOrdered, hlaterOrdered, ?_⟩
      intro token htoken token' htoken'
      exact (hnow token htoken).2.2.trans_le (hlater token' htoken').2
    · intro token htoken
      rcases List.mem_append.mp htoken with htoken | htoken
      · exact ⟨(hnow token htoken).1, (hnow token htoken).2.1⟩
      · exact ⟨(hlater token htoken).1, hsince.trans (hlater token htoken).2⟩

/-- At the start of a text nothing has been begun. -/
theorem since_first : Mode.code.since .first ≤ .first := le_rfl

/-- The findings of a text come in the order in which they begin. -/
theorem tokens_ordered (text : List Char) :
    (tokens text).Pairwise fun t u => t.start < u.start :=
  (scan_ordered 0 text since_first).1

theorem tokens_forward (text : List Char) : ∀ token ∈ tokens text, token.Forward :=
  fun token htoken => ((scan_ordered 0 text since_first).2 token htoken).1

theorem tokens_nodup (text : List Char) : (tokens text).Nodup :=
  (tokens_ordered text).imp fun hbefore hsame => hbefore.ne (congrArg Token.start hsame)

/-- At one place one thing is found. -/
theorem token_eq_of_start {text : List Char} {t u : Token} (ht : t ∈ tokens text)
    (hu : u ∈ tokens text) (hsame : t.start = u.start) : t = u := by
  have hapart : ((tokens text).map Token.start).Nodup :=
    List.pairwise_map.mpr ((tokens_ordered text).imp fun hbefore => hbefore.ne)
  exact List.inj_on_of_nodup_map hapart ht hu hsame

theorem scan_delimiter {c : Char} (hdelimiter : isDelimiter c = true) (spot : Spot)
    (rest : List Char) :
    scan .code 0 spot (c :: rest) = .delimiter c spot :: scan .code 0 (spot.next c) rest := by
  have hplain : ¬ isQuote c = true := by
    intro hquote
    rcases isQuote_iff.mp hquote with rfl | rfl <;> cases hdelimiter
  rw [scan]
  simp only [if_neg hplain, if_pos hdelimiter]

/-- Every delimiter that is met in code is found, and no other. -/
theorem delimiter_mem_tokens_iff {text : List Char} {c : Char} {spot : Spot} :
    .delimiter c spot ∈ tokens text ↔ (Token.delimiter c spot).Stands text := by
  constructor
  · exact tokens_stand text _
  · rintro ⟨front, rest, ⟨rfl, hreach⟩, rfl, hdelimiter, rest, rfl⟩
    obtain ⟨found, hscan⟩ := exists_scan_reach .code 0 .first front ([c] ++ rest)
    rw [tokens, hscan, hreach, List.singleton_append, scan_delimiter hdelimiter]
    exact List.mem_append_right _ List.mem_cons_self

end Source

end PipelineServer
