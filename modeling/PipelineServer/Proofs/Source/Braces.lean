import Mathlib.Data.List.Sort
import PipelineServer.Proofs.Source.Blocks
import PipelineServer.Proofs.Source.Order

/-!
The braces that are found line by line, and those that the scan of the whole text finds.

A reader of single lines starts afresh at every newline and knows no block comments and no triple
quotes. Both ways of reading find braces in the order of the text, so they agree exactly if at every
brace they are in code together (`ReadAlike`). That is so for texts whose strings and comments the
reader can follow (`Legible`): wherever it loses the scan, there are no braces until the next
newline, and there it is back in step.
-/

namespace PipelineServer.Source

/-- Whether a character is an opening or a closing brace. -/
def brace? (c : Char) : Option Bool :=
  if c = '\x7b' then some true else if c = '\x7d' then some false else none

/-- The brace a token is, with its place. -/
def Token.brace? : Token → Option (Spot × Bool)
  | .delimiter c spot => (Source.brace? c).map fun opens => (spot, opens)
  | _ => none

/-- The braces the scan meets in code. -/
def codeBraces (text : List Char) : List (Spot × Bool) := (tokens text).filterMap Token.brace?

/-! ### Reading line by line in one sweep -/

/-- What a reader of single lines is inside of. -/
inductive Reader
  | code
  | string (quote : Char) (escaped : Bool)
  | comment
deriving DecidableEq

theorem brace?_eq_none_of_quote {c : Char} (hquote : isQuote c = true) : brace? c = none := by
  rcases isQuote_iff.mp hquote with rfl | rfl <;> rfl

namespace Reader

/-- What the reader is inside of behind the character `c` of a line, if `ahead` follows it. -/
def next (c : Char) (ahead : Option Char) : Reader → Reader
  | .code =>
      if c = '/' ∧ ahead = some '/' then .comment
      else if isQuote c then .string c false
      else .code
  | .string quote true => .string quote false
  | .string quote false =>
      if c = '\\' then .string quote true else if c = quote then .code else .string quote false
  | .comment => .comment

/-- The same behind a character of a text: every line is read for itself. -/
def step (c : Char) (ahead : Option Char) (reader : Reader) : Reader :=
  if c = '\n' then .code else reader.next c ahead

/-- What the reader is inside of when it has come through `front` to `rest`. -/
def through (reader : Reader) : List Char → List Char → Reader
  | [], _ => reader
  | c :: front, rest => (reader.step c (front ++ rest).head?).through front rest

/-- The brace the reader sees. -/
def sees? (c : Char) : Reader → Option Bool
  | .code => brace? c
  | _ => none

/-- The braces of the rest of a line. -/
def braces (column : Nat) (line : List Char) : Reader → List Brace
  | .code => bracesFrom none false column line
  | .string quote escaped => bracesFrom (some quote) escaped column line
  | .comment => []

theorem braces_nil (column : Nat) (reader : Reader) : reader.braces column [] = [] := by
  cases reader <;> rfl

/-- One character of a line. -/
theorem braces_cons (column : Nat) (c : Char) (line : List Char) (reader : Reader) :
    reader.braces column (c :: line) =
      (reader.sees? c).toList.map (fun opens => ⟨column, opens⟩) ++
        (reader.next c line.head?).braces (column + 1) line := by
  cases reader with
  | comment => rfl
  | string quote escaped =>
    cases escaped with
    | true => rfl
    | false =>
      by_cases hescape : c = '\\'
      · simp [braces, bracesFrom, next, sees?, hescape]
      by_cases hclose : c = quote
      · subst hclose
        simp [braces, bracesFrom, next, sees?, hescape]
      · simp [braces, bracesFrom, next, sees?, hescape, hclose]
  | code =>
    by_cases hcomment : c = '/' ∧ line.head? = some '/'
    · obtain ⟨rfl, hahead⟩ := hcomment
      simp [braces, bracesFrom, next, sees?, brace?, hahead]
    by_cases hquote : isQuote c = true
    · simp only [braces, bracesFrom, next, sees?, if_neg hcomment, if_pos hquote,
        brace?_eq_none_of_quote hquote]
      rfl
    by_cases hopens : c = '\x7b'
    · simp only [braces, bracesFrom, next, sees?, brace?, if_neg hcomment, if_neg hquote,
        if_pos hopens]
      rfl
    by_cases hcloses : c = '\x7d'
    · simp only [braces, bracesFrom, next, sees?, brace?, if_neg hcomment, if_neg hquote,
        if_neg hopens, if_pos hcloses]
      rfl
    · simp only [braces, bracesFrom, next, sees?, brace?, if_neg hcomment, if_neg hquote,
        if_neg hopens, if_neg hcloses]
      rfl

/-- Only a slash ahead makes a difference. -/
theorem next_congr {c : Char} {ahead ahead' : Option Char} (h : ahead ≠ some '/')
    (h' : ahead' ≠ some '/') (reader : Reader) : reader.next c ahead = reader.next c ahead' := by
  cases reader with
  | code => simp [next, h, h']
  | string quote escaped => cases escaped <;> rfl
  | comment => rfl

theorem sees?_eq_none {c : Char} (h : brace? c = none) (reader : Reader) :
    reader.sees? c = none := by
  cases reader with
  | code => exact h
  | string quote escaped => rfl
  | comment => rfl

theorem sees?_eq_some_iff {c : Char} {opens : Bool} {reader : Reader} :
    reader.sees? c = some opens ↔ reader = .code ∧ brace? c = some opens := by
  cases reader with
  | code => exact (and_iff_right rfl).symm
  | string quote escaped => simp [sees?]
  | comment => simp [sees?]

theorem step_of_ne {c : Char} (h : c ≠ '\n') (ahead : Option Char) (reader : Reader) :
    reader.step c ahead = reader.next c ahead := if_neg h

end Reader

/-- A text without braces. -/
def Braceless (text : List Char) : Prop := '\x7b' ∉ text ∧ '\x7d' ∉ text

instance (text : List Char) : Decidable (Braceless text) :=
  inferInstanceAs (Decidable (_ ∧ _))

/-- The rest of the line that a text begins in. -/
def firstLine (text : List Char) : List Char := text.takeWhile (· != '\n')

theorem brace?_eq_none_iff {c : Char} : brace? c = none ↔ c ≠ '\x7b' ∧ c ≠ '\x7d' := by
  unfold brace?
  split
  · next hopens => simp [hopens]
  · next hopens =>
    split
    · next hcloses => simp [hcloses]
    · next hcloses => simp [hopens, hcloses]

theorem braceless_cons_iff {c : Char} {text : List Char} :
    Braceless (c :: text) ↔ brace? c = none ∧ Braceless text := by
  simp only [Braceless, List.mem_cons, not_or, brace?_eq_none_iff, ne_eq, eq_comm (b := c)]
  exact and_and_and_comm

/-- The braces of a whole text as a reader of single lines finds them. -/
def sweep (reader : Reader) (spot : Spot) : List Char → List (Spot × Bool)
  | [] => []
  | c :: rest =>
      ((reader.sees? c).map fun opens => (spot, opens)).toList ++
        sweep (reader.step c rest.head?) (spot.next c) rest

/-- What can follow a line: its end, with a carriage return or without, or nothing. -/
def EndsLine (rest : List Char) : Prop := rest = [] ∨ ['\n'] <+: rest ∨ ['\r', '\n'] <+: rest

theorem EndsLine.head?_ne {rest : List Char} (hends : EndsLine rest) : rest.head? ≠ some '/' := by
  rcases hends with rfl | ⟨rest, rfl⟩ | ⟨rest, rfl⟩ <;> simp

/-- A character that is no brace only moves the reader on. -/
theorem sweep_cons_of_brace?_eq_none {c : Char} (h : brace? c = none) (reader : Reader)
    (spot : Spot) (rest : List Char) :
    sweep reader spot (c :: rest) = sweep (reader.step c rest.head?) (spot.next c) rest := by
  rw [sweep, Reader.sees?_eq_none h]
  rfl

/-- A newline is no brace, and the reader starts afresh behind it. -/
theorem sweep_newline (reader : Reader) (spot : Spot) (rest : List Char) :
    sweep reader spot ('\n' :: rest) = sweep .code ⟨spot.line + 1, 1⟩ rest :=
  sweep_cons_of_brace?_eq_none rfl reader spot rest

theorem sweep_return (spot : Spot) (rest : List Char) :
    sweep .code spot ('\r' :: rest) = sweep .code (spot.next '\r') rest := rfl

/-- If no brace comes before the next newline, it does not matter what the reader is inside of. -/
theorem sweep_of_braceless {text : List Char} (h : Braceless (firstLine text))
    (reader reader' : Reader) (spot : Spot) : sweep reader spot text = sweep reader' spot text := by
  induction text generalizing reader reader' spot with
  | nil => rfl
  | cons c text ih =>
    by_cases hnewline : c = '\n'
    · rw [hnewline, sweep_newline, sweep_newline]
    · have hline : firstLine (c :: text) = c :: firstLine text :=
        List.takeWhile_cons_of_pos (bne_iff_ne.mpr hnewline)
      rw [hline, braceless_cons_iff] at h
      rw [sweep_cons_of_brace?_eq_none h.1, sweep_cons_of_brace?_eq_none h.1]
      exact ih h.2 ..

theorem EndsLine.braceless {rest : List Char} (hends : EndsLine rest) :
    Braceless (firstLine rest) := by
  rcases hends with rfl | ⟨rest, rfl⟩ | ⟨rest, rfl⟩
  · decide
  · change Braceless []
    decide
  · change Braceless ['\r']
    decide

/-- Over one line the sweep finds what the line shows. -/
theorem sweep_line {line rest : List Char} (hplain : '\n' ∉ line) (hends : EndsLine rest)
    (reader : Reader) (spot : Spot) :
    sweep reader spot (line ++ rest) =
      (reader.braces spot.column line).map (fun brace => (⟨spot.line, brace.column⟩, brace.opens))
        ++ sweep .code (behind spot line) rest := by
  induction line generalizing reader spot with
  | nil =>
    rw [Reader.braces_nil, List.nil_append, sweep_of_braceless hends.braceless reader .code]
    rfl
  | cons c line ih =>
    rw [List.mem_cons, not_or] at hplain
    -- the reader looks one character ahead, and a line end is no slash
    have hahead : reader.next c (line ++ rest).head? = reader.next c line.head? := by
      cases line with
      | nil => exact Reader.next_congr hends.head?_ne (by simp) reader
      | cons d line => rfl
    have hnext : spot.next c = ⟨spot.line, spot.column + 1⟩ := if_neg (Ne.symm hplain.1)
    rw [List.cons_append, sweep, Reader.step_of_ne (Ne.symm hplain.1), hahead, ih hplain.2, hnext,
      Reader.braces_cons, behind_cons, hnext, List.map_append, List.append_assoc]
    congr 1
    cases reader.sees? c <;> rfl

/-- Reading a text line by line is one sweep over it. -/
theorem numberedBraces_lines (line : Nat) (text : List Char) :
    numberedBraces line (Text.lines text) = sweep .code ⟨line, 1⟩ text := by
  induction hlength : text.length using Nat.strongRecOn generalizing text line with
  | ind n ih =>
    by_cases hempty : text = []
    · subst hempty
      rfl
    obtain ⟨first, ending, rest, rfl, hplain, hlines, hends⟩ := Text.exists_first_line hempty
    have hendsLine : EndsLine (ending ++ rest) := by
      rcases hends with rfl | rfl | ⟨rfl, rfl⟩
      · exact .inr (.inl (List.prefix_append ..))
      · exact .inr (.inr (List.prefix_append ..))
      · exact .inl rfl
    rw [hlines, numberedBraces, sweep_line hplain hendsLine, behind_of_plain _ hplain]
    congr 1
    rw [List.length_append, List.length_append] at hlength
    rcases hends with rfl | rfl | ⟨rfl, rfl⟩
    · rw [List.length_singleton] at hlength
      rw [ih rest.length (by omega) (line + 1) rest rfl, List.singleton_append, sweep_newline]
    · rw [List.length_cons, List.length_singleton] at hlength
      rw [ih rest.length (by omega) (line + 1) rest rfl, List.cons_append, sweep_return,
        List.singleton_append, sweep_newline]
      rfl
    · rfl

theorem lineBraces_eq_sweep (text : List Char) : lineBraces text = sweep .code .first text :=
  numberedBraces_lines 1 text

/-! ### The places of the braces -/

theorem le_behind (spot : Spot) (text : List Char) : spot ≤ behind spot text := by
  induction text generalizing spot with
  | nil => exact le_rfl
  | cons c text ih => exact (spot.lt_next c).le.trans (ih _)

/-- A text can be split in one way only at a place. -/
theorem split_eq_of_behind {front front' rest rest' : List Char} {spot : Spot}
    (hsplit : front ++ rest = front' ++ rest') (hspot : behind spot front = behind spot front') :
    front = front' ∧ rest = rest' := by
  have hshort : ∀ {front more : List Char}, behind spot front = behind spot (front ++ more) →
      more = [] := by
    intro front more hspot
    cases more with
    | nil => rfl
    | cons c more =>
      rw [behind_append, behind_cons] at hspot
      have hlater := ((behind spot front).lt_next c).trans_le (le_behind _ more)
      exact absurd hlater (hspot ▸ lt_irrefl _)
  rcases List.append_eq_append_iff.mp hsplit with ⟨more, rfl, hrest⟩ | ⟨more, rfl, hrest⟩
  · obtain rfl := hshort hspot
    exact ⟨(List.append_nil front).symm, hrest⟩
  · obtain rfl := hshort hspot.symm
    exact ⟨List.append_nil front', hrest.symm⟩

/-- The sweep finds the braces at which the reader is in code. -/
theorem mem_sweep_iff {reader : Reader} {spot place : Spot} {text : List Char} {opens : Bool} :
    (place, opens) ∈ sweep reader spot text ↔
      ∃ front c rest, text = front ++ c :: rest ∧ reader.through front (c :: rest) = .code ∧
        place = behind spot front ∧ brace? c = some opens := by
  induction text generalizing reader spot with
  | nil => simp [sweep]
  | cons c text ih =>
    have hhere : (place, opens) ∈ ((reader.sees? c).map fun opens => (spot, opens)).toList ↔
        reader = .code ∧ place = spot ∧ brace? c = some opens := by
      rw [Option.mem_toList, Option.map_eq_some_iff]
      constructor
      · rintro ⟨opens, hsees, hplace⟩
        obtain ⟨rfl, rfl⟩ := Prod.mk.inj hplace
        obtain ⟨hcode, hbrace⟩ := Reader.sees?_eq_some_iff.mp hsees
        exact ⟨hcode, rfl, hbrace⟩
      · rintro ⟨hcode, rfl, hbrace⟩
        exact ⟨opens, Reader.sees?_eq_some_iff.mpr ⟨hcode, hbrace⟩, rfl⟩
    rw [sweep, List.mem_append, hhere, ih]
    constructor
    · rintro (⟨hcode, hplace, hbrace⟩ | ⟨front, d, rest, rfl, hcode, hplace, hbrace⟩)
      · exact ⟨[], c, text, rfl, hcode, hplace, hbrace⟩
      · exact ⟨c :: front, d, rest, rfl, hcode, hplace, hbrace⟩
    · rintro ⟨front, d, rest, hsplit, hcode, hplace, hbrace⟩
      cases front with
      | nil =>
        obtain ⟨rfl, rfl⟩ := List.cons.inj hsplit
        exact .inl ⟨hcode, hplace, hbrace⟩
      | cons first front =>
        obtain ⟨rfl, rfl⟩ := List.cons.inj hsplit
        exact .inr ⟨front, d, rest, rfl, hcode, hplace, hbrace⟩

/-- Whether the sweep finds the brace at a given place. -/
theorem behind_mem_sweep_iff {reader : Reader} {spot : Spot} {front rest : List Char} {c : Char}
    {opens : Bool} (hopens : brace? c = some opens) :
    (behind spot front, opens) ∈ sweep reader spot (front ++ c :: rest) ↔
      reader.through front (c :: rest) = .code := by
  rw [mem_sweep_iff]
  constructor
  · rintro ⟨front', c', rest', hsplit, hcode, hspot, -⟩
    obtain ⟨rfl, hrest⟩ := split_eq_of_behind hsplit hspot
    rwa [hrest]
  · intro hcode
    exact ⟨front, c, rest, rfl, hcode, rfl, hopens⟩

theorem sweep_ordered (reader : Reader) (spot : Spot) (text : List Char) :
    (sweep reader spot text).Pairwise fun a b => a.1 < b.1 := by
  induction text generalizing reader spot with
  | nil => exact .nil
  | cons c text ih =>
    rw [sweep]
    refine List.pairwise_append.mpr ⟨?_, ih _ _, ?_⟩
    · cases reader.sees? c with
      | none => exact .nil
      | some opens => exact List.pairwise_singleton ..
    · intro a ha b hb
      obtain ⟨opens, -, rfl⟩ := Option.map_eq_some_iff.mp (Option.mem_toList.mp ha)
      obtain ⟨front, d, rest, -, -, hplace, -⟩ := mem_sweep_iff.mp hb
      exact (spot.lt_next c).trans_le (hplace ▸ le_behind _ front)

theorem isDelimiter_of_brace? {c : Char} {opens : Bool} (h : brace? c = some opens) :
    isDelimiter c = true := by
  unfold brace? at h
  split at h
  · rename_i hopens
    rw [hopens]
    rfl
  · split at h
    · rename_i hcloses
      rw [hcloses]
      rfl
    · cases h

/-- The scan finds the braces at which it is in code. -/
theorem mem_codeBraces_iff {text : List Char} {place : Spot} {opens : Bool} :
    (place, opens) ∈ codeBraces text ↔
      ∃ front c rest, InCode text front (c :: rest) ∧ place = behind .first front ∧
        brace? c = some opens := by
  rw [codeBraces, List.mem_filterMap]
  constructor
  · rintro ⟨token, htoken, hbrace⟩
    cases token with
    | openText start stop => cases hbrace
    | openComment start => cases hbrace
    | delimiter c spot =>
      obtain ⟨opens, hopens, hplace⟩ := Option.map_eq_some_iff.mp hbrace
      obtain ⟨rfl, rfl⟩ := Prod.mk.inj hplace
      obtain ⟨front, _, hcode, hspot, -, rest, rfl⟩ := delimiter_mem_tokens_iff.mp htoken
      exact ⟨front, c, rest, hcode, hspot, hopens⟩
  · rintro ⟨front, c, rest, hcode, rfl, hopens⟩
    refine ⟨.delimiter c (behind .first front), delimiter_mem_tokens_iff.mpr ?_, ?_⟩
    · exact ⟨front, _, hcode, rfl, isDelimiter_of_brace? hopens, rest, rfl⟩
    · rw [Token.brace?, hopens]
      rfl

/-- Whether the scan finds the brace at a given place. -/
theorem behind_mem_codeBraces_iff {front rest : List Char} {c : Char} {opens : Bool}
    (hopens : brace? c = some opens) :
    (behind .first front, opens) ∈ codeBraces (front ++ c :: rest) ↔
      InCode (front ++ c :: rest) front (c :: rest) := by
  rw [mem_codeBraces_iff]
  constructor
  · rintro ⟨front', c', rest', hcode, hspot, -⟩
    obtain ⟨rfl, hrest⟩ := split_eq_of_behind hcode.1 hspot
    rwa [← hrest] at hcode
  · intro hcode
    exact ⟨front, c, rest, hcode, rfl, hopens⟩

theorem codeBraces_ordered (text : List Char) :
    (codeBraces text).Pairwise fun a b => a.1 < b.1 := by
  have hplace : ∀ {token : Token} {brace : Spot × Bool}, token.brace? = some brace →
      brace.1 = token.start := by
    intro token brace h
    cases token with
    | openText start stop => cases h
    | openComment start => cases h
    | delimiter c spot =>
      obtain ⟨opens, -, rfl⟩ := Option.map_eq_some_iff.mp h
      rfl
  refine List.pairwise_filterMap.mpr ((tokens_ordered text).imp ?_)
  intro token token' hbefore brace hbrace brace' hbrace'
  rwa [hplace hbrace, hplace hbrace']

/-- At every brace of the text, a reader of single lines is in code just if the scan is. -/
def ReadAlike (text : List Char) : Prop :=
  ∀ front c rest, text = front ++ c :: rest → brace? c ≠ none →
    (Reader.code.through front (c :: rest) = .code ↔ InCode text front (c :: rest))

/-- Both lists are in the order of the text, so they are the same just if every brace is in both of
them or in none. -/
theorem lineBraces_eq_iff_readAlike {text : List Char} :
    lineBraces text = codeBraces text ↔ ReadAlike text := by
  rw [lineBraces_eq_sweep]
  constructor
  · rintro hsame front c rest rfl hbrace
    obtain ⟨opens, hopens⟩ := Option.ne_none_iff_exists'.mp hbrace
    rw [← behind_mem_sweep_iff hopens, ← behind_mem_codeBraces_iff hopens, hsame]
  · intro halike
    have hantisymm : Std.Antisymm fun a b : Spot × Bool => a.1 < b.1 :=
      ⟨fun a b hab hba => absurd hba (lt_asymm hab)⟩
    have hirrefl : Std.Irrefl fun a b : Spot × Bool => a.1 < b.1 := ⟨fun a => lt_irrefl a.1⟩
    refine (sweep_ordered .code .first text).eq_of_mem_iff (codeBraces_ordered text) ?_
    rintro ⟨place, opens⟩
    rw [mem_sweep_iff, mem_codeBraces_iff]
    constructor
    · rintro ⟨front, c, rest, hsplit, hcode, hspot, hopens⟩
      have hbrace : brace? c ≠ none := by simp [hopens]
      exact ⟨front, c, rest, (halike front c rest hsplit hbrace).mp hcode, hspot, hopens⟩
    · rintro ⟨front, c, rest, hmet, hspot, hopens⟩
      have hbrace : brace? c ≠ none := by simp [hopens]
      exact ⟨front, c, rest, hmet.1, (halike front c rest hmet.1 hbrace).mpr hmet, hspot, hopens⟩

/-! ### Texts that can be read line by line -/

/-- A stretch in front of `rest` in which a reader of single lines sees no brace. Behind it the
reader is back in code, or no brace follows on the line. -/
def Passed (rest text : List Char) : Prop :=
  lineBraces text = [] ∧ (Reader.code.through text rest = .code ∨ Braceless (firstLine rest))

instance (rest text : List Char) : Decidable (Passed rest text) :=
  inferInstanceAs (Decidable (_ ∧ (_ ∨ _)))

/-- A piece in front of `rest` that a reader of single lines can follow. A string on one line is
one, if its quote occurs in it only behind a backslash. -/
def Piece.Followed (rest : List Char) : Piece → Prop
  | .code _ | .lineComment _ => True
  | .blockComment body => Passed rest (Piece.blockComment body).text
  | .quoted triple quote body =>
      Inside false quote body ∧ '\n' ∉ body ∨ Passed rest (Piece.quoted triple quote body).text

/-- Texts that split into pieces which a reader of single lines can follow. -/
inductive Legible : List Char → Prop
  | nil : Legible []
  | cons {piece : Piece} {rest : List Char} (hfits : piece.Fits rest)
      (hfollowed : piece.Followed rest) (hrest : Legible rest) : Legible (piece.text ++ rest)

/-- Whether a sweep finds nothing does not depend on where it starts. -/
theorem sweep_eq_nil_iff {reader : Reader} {spot : Spot} {text : List Char} :
    sweep reader spot text = [] ↔ ∀ front c rest, text = front ++ c :: rest →
      reader.through front (c :: rest) = .code → brace? c = none := by
  rw [List.eq_nil_iff_forall_not_mem]
  constructor
  · intro h front c rest hsplit hcode
    rw [Option.eq_none_iff_forall_ne_some]
    intro opens hopens
    exact h (behind spot front, opens)
      (mem_sweep_iff.mpr ⟨front, c, rest, hsplit, hcode, rfl, hopens⟩)
  · rintro h ⟨place, opens⟩ hmem
    obtain ⟨front, c, rest, hsplit, hcode, -, hopens⟩ := mem_sweep_iff.mp hmem
    rw [h front c rest hsplit hcode] at hopens
    cases hopens

/-- A sweep over two stretches. What the reader sees in the first does not depend on the second. -/
theorem sweep_append (reader : Reader) (spot : Spot) (text rest : List Char) :
    sweep reader spot (text ++ rest) =
      sweep reader spot text ++ sweep (reader.through text rest) (behind spot text) rest := by
  induction text generalizing reader spot with
  | nil => rfl
  | cons c text ih =>
    have hahead : sweep (reader.step c (text ++ rest).head?) (spot.next c) text =
        sweep (reader.step c text.head?) (spot.next c) text := by
      cases text <;> rfl
    rw [List.cons_append, sweep, sweep, ih, hahead, List.append_assoc]
    rfl

theorem sweep_passed {text rest : List Char} (hpassed : Passed rest text) (spot : Spot) :
    sweep .code spot (text ++ rest) = sweep .code (behind spot text) rest := by
  obtain ⟨hunseen, hback⟩ := hpassed
  rw [lineBraces_eq_sweep, sweep_eq_nil_iff] at hunseen
  rw [sweep_append, sweep_eq_nil_iff.mpr hunseen, List.nil_append]
  rcases hback with hcode | hquiet
  · rw [hcode]
  · exact sweep_of_braceless hquiet ..

section Quoted

variable {quote : Char} (hquote : quote = '\'' ∨ quote = '"')

include hquote

theorem sweep_opening (spot : Spot) (rest : List Char) :
    sweep .code spot (quote :: rest) = sweep (.string quote false) (spot.next quote) rest := by
  rcases hquote with rfl | rfl <;> rfl

theorem sweep_closing (spot : Spot) (rest : List Char) :
    sweep (.string quote false) spot (quote :: rest) = sweep .code (spot.next quote) rest := by
  rcases hquote with rfl | rfl <;> rfl

/-- Three quotes open a string as one does: the second closes what the first has opened. -/
theorem sweep_opening_marks (triple : Bool) (spot : Spot) (rest : List Char) :
    sweep .code spot (marks triple quote ++ rest) =
      sweep (.string quote false) (behind spot (marks triple quote)) rest := by
  cases triple with
  | false => exact sweep_opening hquote spot rest
  | true =>
    change sweep .code spot (quote :: quote :: quote :: rest) = _
    rw [sweep_opening hquote, sweep_closing hquote, sweep_opening hquote]
    rfl

theorem sweep_closing_marks (triple : Bool) (spot : Spot) (rest : List Char) :
    sweep (.string quote false) spot (marks triple quote ++ rest) =
      sweep .code (behind spot (marks triple quote)) rest := by
  cases triple with
  | false => exact sweep_closing hquote spot rest
  | true =>
    change sweep (.string quote false) spot (quote :: quote :: quote :: rest) = _
    rw [sweep_closing hquote, sweep_opening hquote, sweep_closing hquote]
    rfl

end Quoted

/-- Inside a string the reader sees no braces, and only the quote that has opened it closes it. -/
theorem sweep_inside {quote : Char} {body : List Char} (hinside : Inside false quote body)
    (hplain : '\n' ∉ body) (spot : Spot) (rest : List Char) :
    sweep (.string quote false) spot (body ++ rest) =
      sweep (.string quote false) (behind spot body) rest := by
  induction hinside generalizing spot with
  | nil => rfl
  | @escaped c body hbody ih =>
    simp only [List.mem_cons, not_or] at hplain
    obtain ⟨-, hnewline, hplain⟩ := hplain
    have hescape : sweep (.string quote false) spot ('\\' :: c :: (body ++ rest)) =
        sweep (.string quote false) (behind spot ['\\', c]) (body ++ rest) := by
      simp [sweep, Reader.sees?, Reader.step, Reader.next, Ne.symm hnewline]
    rw [List.cons_append, List.cons_append, hescape, ih hplain]
    rfl
  | @plain c body hbackslash hline hopen hbody ih =>
    simp only [List.mem_cons, not_or] at hplain
    rw [List.cons_append, marks_false_prefix_iff] at hopen
    have hstep : sweep (.string quote false) spot (c :: (body ++ rest)) =
        sweep (.string quote false) (spot.next c) (body ++ rest) := by
      simp [sweep, Reader.sees?, Reader.step, Reader.next, Ne.symm hplain.1, hbackslash, hopen]
    rw [List.cons_append, hstep, ih hplain.2]
    rfl

theorem sweep_quoted {triple : Bool} {quote : Char} {body : List Char}
    (hquote : quote = '\'' ∨ quote = '"') (hinside : Inside false quote body)
    (hplain : '\n' ∉ body) (spot : Spot) (rest : List Char) :
    sweep .code spot ((Piece.quoted triple quote body).text ++ rest) =
      sweep .code (behind spot (Piece.quoted triple quote body).text) rest := by
  simp only [Piece.text, List.append_assoc, behind_append]
  rw [sweep_opening_marks hquote, sweep_inside hinside hplain, sweep_closing_marks hquote]

theorem sweep_comment {body : List Char} (hplain : '\n' ∉ body) (spot : Spot) (rest : List Char) :
    sweep .comment spot (body ++ rest) = sweep .comment (behind spot body) rest := by
  induction body generalizing spot with
  | nil => rfl
  | cons c body ih =>
    rw [List.mem_cons, not_or] at hplain
    rw [List.cons_append, sweep, Reader.step_of_ne (Ne.symm hplain.1)]
    exact ih hplain.2 _

/-- A line comment hides the rest of its line. -/
theorem sweep_lineComment {body rest : List Char} (hfits : (Piece.lineComment body).Fits rest)
    (spot : Spot) :
    sweep .code spot ((Piece.lineComment body).text ++ rest) =
      sweep .code (behind spot (Piece.lineComment body).text) rest := by
  obtain ⟨hplain, hends⟩ := hfits
  have hopened : sweep .code spot ('/' :: '/' :: (body ++ rest)) =
      sweep .comment (behind spot ['/', '/']) (body ++ rest) := rfl
  have hquiet : Braceless (firstLine rest) :=
    EndsLine.braceless (hends.imp_right .inl)
  exact (hopened.trans (sweep_comment hplain _ rest)).trans (sweep_of_braceless hquiet ..)

theorem filterMap_tokens_code (spot : Spot) (c : Char) :
    ((Piece.code c).tokens spot).filterMap Token.brace? =
      ((brace? c).map fun opens => (spot, opens)).toList := by
  by_cases hbracket : c ∈ brackets
  · have htokens : (Piece.code c).tokens spot = [.delimiter c spot] := by
      simp [Piece.tokens, Piece.delimiter?, hbracket]
    rw [htokens]
    cases h : brace? c <;> simp [Token.brace?, h]
  · have hnone : brace? c = none := by
      rw [Option.eq_none_iff_forall_ne_some]
      intro opens hopens
      exact hbracket (isDelimiter_iff.mp (isDelimiter_of_brace? hopens))
    simp [Piece.tokens, Piece.delimiter?, hbracket, hnone]

/-- A character of code that fits leaves the reader in code. -/
theorem sweep_code {c : Char} {rest : List Char} (hfits : (Piece.code c).Fits rest)
    (spot : Spot) :
    sweep .code spot (c :: rest) =
      ((Piece.code c).tokens spot).filterMap Token.brace? ++ sweep .code (spot.next c) rest := by
  obtain ⟨hapostrophe, hquotation, hcomment, -⟩ := hfits
  have hquote : ¬ isQuote c = true := by
    rw [isQuote_iff]
    exact not_or.mpr ⟨hapostrophe, hquotation⟩
  rw [pair_prefix_iff] at hcomment
  rw [filterMap_tokens_code, sweep, Reader.step, Reader.next, if_neg hcomment, if_neg hquote,
    ite_self]
  rfl

/-- Over a piece that it can follow the reader finds what the scan finds, and behind it the two are
in step. -/
theorem sweep_piece {piece : Piece} {rest : List Char} (hfits : piece.Fits rest)
    (hfollowed : piece.Followed rest) (spot : Spot) :
    sweep .code spot (piece.text ++ rest) =
      (piece.tokens spot).filterMap Token.brace? ++
        sweep .code (behind spot piece.text) rest := by
  cases piece with
  | code c => exact sweep_code hfits spot
  | lineComment body => exact sweep_lineComment hfits spot
  | blockComment body => exact sweep_passed hfollowed spot
  | quoted triple quote body =>
    rcases hfollowed with ⟨hinside, hplain⟩ | hpassed
    · exact sweep_quoted hfits.1 hinside hplain spot rest
    · exact sweep_passed hpassed spot

/-- Over a text that it can follow the reader finds what the scan finds. -/
theorem sweep_legible {text : List Char} (hlegible : Legible text) (spot : Spot) :
    sweep .code spot text = (scan .code 0 spot text).filterMap Token.brace? := by
  induction hlegible generalizing spot with
  | nil => rfl
  | @cons piece rest hfits hfollowed hrest ih =>
    rw [sweep_piece hfits hfollowed, scan_piece spot hfits, List.filterMap_append, ih]

theorem readAlike_of_legible {text : List Char} (hlegible : Legible text) : ReadAlike text := by
  rw [← lineBraces_eq_iff_readAlike, lineBraces_eq_sweep, sweep_legible hlegible]
  rfl

/-! ### The structure of the braces -/

theorem Nested.append {left right : List Char} (hleft : Nested left) (hright : Nested right) :
    Nested (left ++ right) := by
  induction hleft with
  | nil => exact hright
  | @pair opener closer inner rest hpair hinner hrest ihInner ihRest =>
    have hassoc : opener :: inner ++ closer :: rest ++ right =
        opener :: inner ++ closer :: (rest ++ right) := by simp
    rw [hassoc]
    exact .pair hpair hinner ihRest

theorem brace?_of_mem_bracketPairs {opener closer : Char} (h : (opener, closer) ∈ bracketPairs) :
    (brace? opener = some true ∧ brace? closer = some false) ∨
      (brace? opener = none ∧ brace? closer = none) := by
  simp only [bracketPairs, List.mem_cons, List.not_mem_nil, or_false, Prod.mk.injEq] at h
  rcases h with ⟨rfl, rfl⟩ | ⟨rfl, rfl⟩ | ⟨rfl, rfl⟩ <;> decide

/-- The braces of a nested word are nested. -/
theorem Nested.filter_brace {word : List Char} (hnested : Nested word) :
    Nested (word.filter fun c => (brace? c).isSome) := by
  induction hnested with
  | nil => exact .nil
  | @pair opener closer inner rest hpair hinner hrest ihInner ihRest =>
    rw [List.filter_append, List.filter_cons, List.filter_cons]
    rcases brace?_of_mem_bracketPairs hpair with ⟨hopens, hcloses⟩ | ⟨hopens, hcloses⟩
    · rw [hopens, hcloses]
      exact .pair hpair ihInner ihRest
    · rw [hopens, hcloses]
      exact ihInner.append ihRest

/-- The character of a brace. -/
def braceChar (opens : Bool) : Char := if opens then '\x7b' else '\x7d'

theorem braceChar_of_brace? {c : Char} {opens : Bool} (h : brace? c = some opens) :
    braceChar opens = c := by
  unfold brace? at h
  split at h
  · next his => exact Option.some.inj h ▸ his.symm
  · split at h
    · next his => exact Option.some.inj h ▸ his.symm
    · cases h

/-- The braces among the tokens are those of the word of delimiters. -/
theorem map_braceChar_filterMap {found : List Token} {word : List Char}
    (h : delimiters? found = some word) :
    (found.filterMap Token.brace?).map (fun brace => braceChar brace.2) =
      word.filter fun c => (brace? c).isSome := by
  induction found generalizing word with
  | nil =>
    obtain rfl := Option.some.inj h
    rfl
  | cons token found ih =>
    cases token with
    | openText start stop => cases h
    | openComment start => cases h
    | delimiter c spot =>
      obtain ⟨rest, hrest, rfl⟩ := Option.map_eq_some_iff.mp h
      rw [List.filterMap_cons, List.filter_cons, Token.brace?]
      cases hbrace : brace? c with
      | none => exact ih hrest
      | some opens =>
        simp only [Option.map_some, Option.isSome_some, if_true, List.map_cons, ih hrest,
          braceChar_of_brace? hbrace]

/-- On a text that draws no message, the braces of its lines are the braces the scan meets in code,
place by place, just if the two ways of reading it are alike at every brace; they are if a reader of
single lines can follow the text. The braces in code are nested, and where the readings are alike,
the depth that declarations are read at is the depth among them. -/
theorem lineBraces_eq_codeBraces_iff (source : Path) (text : String)
    (haccepted : check source text = []) :
    (lineBraces text.toList = codeBraces text.toList ↔ ReadAlike text.toList) ∧
      (Legible text.toList → ReadAlike text.toList) ∧
      Nested ((codeBraces text.toList).map fun brace => braceChar brace.2) ∧
      (ReadAlike text.toList → ∀ before after, Text.lines text.toList = before ++ after →
        (Reading.start.takeLines 1 before).depth =
          ((codeBraces text.toList).filter fun brace => brace.1.line ≤ before.length).foldl
            deepen 0) := by
  refine ⟨lineBraces_eq_iff_readAlike, readAlike_of_legible, ?_, ?_⟩
  · rw [check, List.map_eq_nil_iff, faults_eq_nil_iff] at haccepted
    obtain ⟨word, hfound, hnested⟩ := haccepted
    rw [codeBraces, map_braceChar_filterMap hfound]
    exact hnested.filter_brace
  · intro halike before after hsplit
    rw [← lineBraces_eq_iff_readAlike.mpr halike, lineBraces, hsplit, filter_numberedBraces,
      Reading.takeLines_depth]
    rfl

namespace BracesWitness

def source : Path := .ofText "/w/a.nf"

/-- A closing brace in a comment. -/
def commented : String := "class A \x7b\n  /* \x7d */\n  int x\n\x7d"

/-- An opening brace in a string, behind an apostrophe. -/
def tripled : String := "x = '''it's \x7b'''"

/-- The texts draw no message, and their lines show one brace more than their code has: the class
ends in the comment, and the field behind it is not nested. -/
theorem comment_shows_brace :
    (check source commented = [] ∧
      codeBraces commented.toList = [(⟨1, 9⟩, true), (⟨4, 1⟩, false)] ∧
      lineBraces commented.toList = [(⟨1, 9⟩, true), (⟨2, 6⟩, false), (⟨4, 1⟩, false)] ∧
      (declarations commented.toList).map (fun d => (d.name, d.span.stop, d.parent)) =
        [("A", ⟨2, 7⟩, none), ("x", ⟨3, 8⟩, none)]) ∧
    (check source tripled = [] ∧ codeBraces tripled.toList = [] ∧
      lineBraces tripled.toList = [(⟨1, 13⟩, true)]) := by
  decide +kernel

theorem legible_plain {front rest : List Char}
    (hplain : '\'' ∉ front ∧ '"' ∉ front ∧ '/' ∉ front) (hrest : Legible rest) :
    Legible (front ++ rest) := by
  induction front with
  | nil => exact hrest
  | cons c front ih =>
    obtain ⟨hapostrophe, hquotation, hslash⟩ := hplain
    rw [List.mem_cons, not_or] at hapostrophe hquotation hslash
    have hnone : ∀ d, ¬ ['/', d] <+: c :: (front ++ rest) :=
      fun d hbegins => hslash.1 (List.cons_prefix_cons.mp hbegins).1
    have hfits : (Piece.code c).Fits (front ++ rest) :=
      ⟨Ne.symm hapostrophe.1, Ne.symm hquotation.1, hnone _, hnone _⟩
    exact .cons hfits trivial (ih ⟨hapostrophe.2, hquotation.2, hslash.2⟩)

theorem inside_triple {quote : Char} {body : List Char} (hbackslash : '\\' ∉ body)
    (hquote : quote ∉ body) : Inside true quote body := by
  induction body with
  | nil => exact .nil
  | cons c body ih =>
    rw [List.mem_cons, not_or] at hbackslash hquote
    exact .plain (Ne.symm hbackslash.1) nofun
      (fun hbegins => hquote.1 (marks_true_prefix_iff.mp hbegins).1.symm)
      (ih hbackslash.2 hquote.2)

/-- The lines of a script. -/
def script : Piece := .quoted true '"' "\n  echo '\x7d'\n  ".toList

def remark : Piece := .lineComment " trailing ) comment".toList

/-- A process with a brace in its script. -/
def balanced : String :=
  "process FOO \x7b\n  script:\n  \"\"\"\n  echo '\x7d'\n  \"\"\"\n\x7d\n// trailing ) comment\n"

theorem balanced_legible : Legible balanced.toList := by
  have hsplit : balanced.toList = "process FOO \x7b\n  script:\n  ".toList ++
      (script.text ++ ("\n\x7d\n".toList ++ (remark.text ++ ("\n".toList ++ [])))) := by
    decide +kernel
  have hinside : Inside true '"' "\n  echo '\x7d'\n  ".toList :=
    inside_triple (by decide +kernel) (by decide +kernel)
  have hscript : script.Followed ("\n\x7d\n".toList ++ (remark.text ++ ("\n".toList ++ []))) :=
    .inr (by decide +kernel)
  rw [hsplit]
  refine legible_plain (by decide +kernel) (.cons ⟨.inr rfl, hinside, nofun⟩ hscript ?_)
  refine legible_plain (by decide +kernel) (.cons ⟨by decide +kernel, .inr ⟨[], rfl⟩⟩ trivial ?_)
  exact legible_plain (by decide +kernel) .nil

/-- A comment that shows a string to the reader of single lines. -/
def remarked : String := "/* see \"x\" */ class A \x7b\n\x7d\n"

theorem lineBraces_eq_codeBraces_iff_balanced :
    (check source balanced = [] ∧
      lineBraces balanced.toList = [(⟨1, 13⟩, true), (⟨6, 1⟩, false)] ∧
      codeBraces balanced.toList = [(⟨1, 13⟩, true), (⟨6, 1⟩, false)] ∧
      ReadAlike balanced.toList) ∧
    (check source remarked = [] ∧ ReadAlike remarked.toList) ∧
    ¬ ReadAlike commented.toList := by
  have hbalanced : check source balanced = [] := by decide +kernel
  have hremarked : check source remarked = [] := by decide +kernel
  have hcommented : check source commented = [] := by decide +kernel
  refine ⟨⟨hbalanced, by decide +kernel, by decide +kernel, ?_⟩, ⟨hremarked, ?_⟩, ?_⟩
  · exact (lineBraces_eq_codeBraces_iff source balanced hbalanced).2.1 balanced_legible
  · exact (lineBraces_eq_codeBraces_iff source remarked hremarked).1.mp (by decide +kernel)
  · intro halike
    have hsame := (lineBraces_eq_codeBraces_iff source commented hcommented).1.mpr halike
    exact absurd hsame (by decide +kernel)

end BracesWitness

end PipelineServer.Source
