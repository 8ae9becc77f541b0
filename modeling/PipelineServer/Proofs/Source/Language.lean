import PipelineServer.Proofs.Source.Pieces

/-!
The language of the syntax check.

Main statement: `check_eq_nil_iff`. A text draws no message just when it splits into pieces whose
delimiters are nested. One direction passes over the pieces one after another; the other takes the
first piece off a text in which the scan leaves nothing open.
-/

namespace PipelineServer.Source

/-! ## Texts that are taken apart -/

theorem exists_line (text : List Char) :
    ∃ body rest, text = body ++ rest ∧ '\n' ∉ body ∧ (rest = [] ∨ ['\n'] <+: rest) := by
  induction text with
  | nil => exact ⟨[], [], rfl, by simp, .inl rfl⟩
  | cons c text ih =>
      by_cases hc : c = '\n'
      · exact ⟨[], c :: text, rfl, by simp, .inr ⟨text, by rw [hc]; rfl⟩⟩
      · obtain ⟨body, rest, htext, hbody, hrest⟩ := ih
        refine ⟨c :: body, rest, by rw [htext]; rfl, ?_, hrest⟩
        simp only [List.mem_cons, not_or]
        exact ⟨Ne.symm hc, hbody⟩

/-- A block comment ends, or is found open. -/
theorem blockComment_closed_or_open (start spot : Spot) (text : List Char) :
    (∃ body rest, text = body ++ ['*', '/'] ++ rest ∧ ¬ ['*', '/'] <:+: body) ∨
      delimiters? (scan (.blockComment start) 0 spot text) = none := by
  induction text generalizing spot with
  | nil =>
      right
      simp [Mode.leftOpen, delimiters?]
  | cons c text ih =>
      by_cases hclosed : ['*', '/'] <+: c :: text
      · obtain ⟨rest, hrest⟩ := hclosed
        exact .inl ⟨[], rest, hrest.symm, by simp⟩
      · have hscan : scan (.blockComment start) 0 spot (c :: text) =
            scan (.blockComment start) 0 (spot.next c) text := by
          rw [pair_prefix_iff] at hclosed
          simp only [scan, if_neg hclosed]
        rw [hscan]
        rcases ih (spot.next c) with ⟨body, rest, rfl, hbody⟩ | hopen
        · refine .inl ⟨c :: body, rest, by simp, ?_⟩
          rw [List.infix_cons_iff, not_or]
          refine ⟨fun hbegins => hclosed (hbegins.trans ?_), hbody⟩
          exact ⟨['*', '/'] ++ rest, by simp⟩
        · exact .inr hopen

/-- A string ends, or is found open: at a newline between single quotes, or at the end of the
text. -/
theorem text_closed_or_open {quote : Char} (hquote : quote ≠ '\n') (triple : Bool)
    (start spot : Spot) (text : List Char) :
    (∃ body rest, text = body ++ marks triple quote ++ rest ∧ Inside triple quote body) ∨
      delimiters? (scan (.text quote triple start) 0 spot text) = none := by
  -- an escape takes two characters at once, so the induction is on the length
  induction hlength : text.length using Nat.strongRecOn generalizing text spot with
  | ind length ih =>
      subst hlength
      cases text with
      | nil =>
          right
          simp [Mode.leftOpen, delimiters?]
      | cons c text =>
          by_cases hclosed : marks triple quote <+: c :: text
          · obtain ⟨rest, hrest⟩ := hclosed
            exact .inl ⟨[], rest, hrest.symm, .nil⟩
          by_cases hbackslash : c = '\\'
          · subst hbackslash
            cases text with
            | nil => exact .inr rfl
            | cons d text =>
                have hshorter : text.length < ('\\' :: d :: text).length := by
                  simp only [List.length_cons]
                  omega
                rw [scan_text_escaped]
                rcases ih text.length hshorter _ text rfl with ⟨body, rest, rfl, hbody⟩ | hopen
                · exact .inl ⟨'\\' :: d :: body, rest, by simp, .escaped hbody⟩
                · exact .inr hopen
          by_cases hcut : triple = false ∧ c = '\n'
          · obtain ⟨rfl, rfl⟩ := hcut
            right
            simp [scan, Ne.symm hquote, delimiters?]
          have hline : triple = false → c ≠ '\n' := fun hsingle hc => hcut ⟨hsingle, hc⟩
          rw [scan_text_plain start spot hbackslash hline hclosed]
          rcases ih text.length (by simp) _ text rfl with ⟨body, rest, rfl, hbody⟩ | hopen
          · refine .inl ⟨c :: body, rest, by simp, .plain hbackslash hline ?_ hbody⟩
            exact fun hbegins => hclosed (hbegins.trans ⟨rest, by simp⟩)
          · exact .inr hopen

/-- A quote begins a string, between triple quotes where there are three of them. -/
theorem exists_marks (quote : Char) (text : List Char) :
    ∃ triple inner, quote :: text = marks triple quote ++ inner ∧
      (triple = false → ¬ marks true quote <+: quote :: inner) := by
  by_cases htriple : marks true quote <+: quote :: text
  · obtain ⟨inner, hinner⟩ := htriple
    exact ⟨true, inner, hinner.symm, by simp⟩
  · exact ⟨false, text, rfl, fun _ => htriple⟩

/-- A text that is not empty begins with a piece, or the scan finds a comment or string open. -/
theorem exists_piece_or_open (spot : Spot) {text : List Char} (htext : text ≠ []) :
    (∃ (piece : Piece) (rest : List Char), text = piece.text ++ rest ∧ piece.Fits rest) ∨
      delimiters? (scan .code 0 spot text) = none := by
  obtain ⟨c, text, rfl⟩ := List.exists_cons_of_ne_nil htext
  by_cases hquote : c = '\'' ∨ c = '"'
  · have hnewline : c ≠ '\n' := by rcases hquote with rfl | rfl <;> decide
    obtain ⟨triple, inner, hinner, hsingle⟩ := exists_marks c text
    rw [hinner, scan_text_start spot hquote hsingle]
    rcases text_closed_or_open hnewline triple spot (behind spot (marks triple c)) inner with
      ⟨body, rest, rfl, hbody⟩ | hopen
    · refine .inl ⟨.quoted triple c body, rest, by simp [Piece.text], hquote, hbody, ?_⟩
      rintro rfl
      simpa [marks] using hsingle rfl
    · exact .inr hopen
  by_cases hline : ['/', '/'] <+: c :: text
  · obtain ⟨inner, hinner⟩ := hline
    obtain ⟨body, rest, rfl, hbody, hrest⟩ := exists_line inner
    exact .inl ⟨.lineComment body, rest, hinner.symm, hbody, hrest⟩
  by_cases hblock : ['/', '*'] <+: c :: text
  · obtain ⟨inner, hinner⟩ := hblock
    rw [← hinner, List.cons_append, List.cons_append, List.nil_append, scan_blockComment_start]
    rcases blockComment_closed_or_open spot (behind spot ['/', '*']) inner with
      ⟨body, rest, rfl, hbody⟩ | hopen
    · exact .inl ⟨.blockComment body, rest, by simp [Piece.text], hbody⟩
    · exact .inr hopen
  · rw [not_or] at hquote
    exact .inl ⟨.code c, text, rfl, hquote.1, hquote.2, hline, hblock⟩

/-! ## Rows of pieces -/

theorem delimiters?_piece (piece : Piece) (spot : Spot) (rest : List Token) :
    delimiters? (piece.tokens spot ++ rest) =
      (delimiters? rest).map (piece.delimiter?.toList ++ ·) := by
  cases hpiece : piece.delimiter? with
  | none => simp [Piece.tokens, hpiece]
  | some c => simp [Piece.tokens, hpiece, delimiters?]

theorem delimiters?_of_splits {text : List Char} {pieces : List Piece}
    (hsplits : Splits text pieces) (spot : Spot) :
    delimiters? (scan .code 0 spot text) = some (pieces.filterMap Piece.delimiter?) := by
  induction hsplits generalizing spot with
  | nil => rfl
  | @cons piece rest pieces hfits hrest ih =>
      rw [scan_piece spot hfits, delimiters?_piece, ih]
      cases hpiece : piece.delimiter? <;> simp [hpiece]

theorem exists_splits {text : List Char} {spot : Spot} {word : List Char}
    (hword : delimiters? (scan .code 0 spot text) = some word) : ∃ pieces, Splits text pieces := by
  induction hlength : text.length using Nat.strongRecOn generalizing text spot word with
  | ind length ih =>
      by_cases htext : text = []
      · subst htext
        exact ⟨[], .nil⟩
      rcases exists_piece_or_open spot htext with ⟨piece, rest, rfl, hfits⟩ | hopen
      · rw [scan_piece spot hfits, delimiters?_piece, Option.map_eq_some_iff] at hword
        obtain ⟨word, hword, -⟩ := hword
        have hshorter : rest.length < length := by
          have hpiece : 0 < piece.text.length := by
            cases piece with
            | quoted triple quote body => cases triple <;> simp [Piece.text, marks]
            | _ => simp [Piece.text]
          rw [List.length_append] at hlength
          omega
        obtain ⟨pieces, hpieces⟩ := ih rest.length hshorter hword rfl
        exact ⟨piece :: pieces, .cons hfits hpieces⟩
      · rw [hopen] at hword
        cases hword

/-- The syntax check accepts exactly the texts that split into complete comments, complete strings
and code characters, with the delimiters among the code characters nested. -/
theorem check_eq_nil_iff (source : Path) (text : String) :
    check source text = [] ↔
      ∃ pieces, Splits text.toList pieces ∧ Nested (pieces.filterMap Piece.delimiter?) := by
  rw [check, List.map_eq_nil_iff, faults_eq_nil_iff, tokens]
  constructor
  · rintro ⟨word, hword, hnested⟩
    obtain ⟨pieces, hsplits⟩ := exists_splits hword
    rw [delimiters?_of_splits hsplits, Option.some.injEq] at hword
    exact ⟨pieces, hsplits, hword ▸ hnested⟩
  · rintro ⟨pieces, hsplits, hnested⟩
    exact ⟨_, delimiters?_of_splits hsplits .first, hnested⟩

end PipelineServer.Source
