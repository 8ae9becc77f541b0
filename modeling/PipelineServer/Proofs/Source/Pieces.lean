import PipelineServer.Proofs.Source.Nesting

/-!
The pieces of a source text, and what the scan makes of each.

A text is a row of comments, strings and code characters. `Splits` says which rows make up a text;
every piece is judged together with what follows it. `scan_piece` says that the scan passes over a
piece as a whole.
-/

namespace PipelineServer.Source

/-- The characters of the pairs. -/
def brackets : List Char := bracketPairs.flatMap fun p => [p.1, p.2]

/-- What begins and ends a string. -/
def marks (triple : Bool) (quote : Char) : List Char :=
  if triple then [quote, quote, quote] else [quote]

/-- The characters of a string between its quotes. A backslash comes with the character behind it.
Otherwise the closing quotes do not occur early, and a newline only between triple quotes. -/
inductive Inside (triple : Bool) (quote : Char) : List Char → Prop
  | nil : Inside triple quote []
  | escaped {c : Char} {rest : List Char} (hrest : Inside triple quote rest) :
      Inside triple quote ('\\' :: c :: rest)
  | plain {c : Char} {rest : List Char} (hbackslash : c ≠ '\\')
      (hline : triple = false → c ≠ '\n')
      (hopen : ¬ marks triple quote <+: c :: rest ++ marks triple quote)
      (hrest : Inside triple quote rest) : Inside triple quote (c :: rest)

/-- A comment, a string or a character of code. -/
inductive Piece
  | lineComment (body : List Char)
  | blockComment (body : List Char)
  | quoted (triple : Bool) (quote : Char) (body : List Char)
  | code (c : Char)
deriving DecidableEq, Repr

namespace Piece

def text : Piece → List Char
  | .lineComment body => '/' :: '/' :: body
  | .blockComment body => '/' :: '*' :: body ++ ['*', '/']
  | .quoted triple quote body => marks triple quote ++ body ++ marks triple quote
  | .code c => [c]

/-- Whether a piece reads as such in front of `rest`. -/
def Fits (rest : List Char) : Piece → Prop
  | .lineComment body => '\n' ∉ body ∧ (rest = [] ∨ ['\n'] <+: rest)
  | .blockComment body => ¬ ['*', '/'] <:+: body
  | .quoted triple quote body =>
      (quote = '\'' ∨ quote = '"') ∧ Inside triple quote body ∧
        (triple = false → ¬ marks true quote <+: quote :: body ++ quote :: rest)
  | .code c => c ≠ '\'' ∧ c ≠ '"' ∧ ¬ ['/', '/'] <+: c :: rest ∧ ¬ ['/', '*'] <+: c :: rest

/-- The delimiter a piece is; those in strings and comments do not count. -/
def delimiter? : Piece → Option Char
  | .code c => if c ∈ brackets then some c else none
  | _ => none

/-- What is found in a piece that begins at `spot`. -/
def tokens (spot : Spot) (piece : Piece) : List Token :=
  (piece.delimiter?.map fun c => .delimiter c spot).toList

end Piece

/-- The readings of a text as a row of pieces. -/
inductive Splits : List Char → List Piece → Prop
  | nil : Splits [] []
  | cons {piece : Piece} {rest : List Char} {pieces : List Piece} (hfits : piece.Fits rest)
      (hrest : Splits rest pieces) : Splits (piece.text ++ rest) (piece :: pieces)

/-- The place behind a stretch of text. -/
def behind (spot : Spot) (text : List Char) : Spot := text.foldl Spot.next spot

@[simp] theorem behind_nil (spot : Spot) : behind spot [] = spot := rfl

@[simp] theorem behind_cons (spot : Spot) (c : Char) (text : List Char) :
    behind spot (c :: text) = behind (spot.next c) text := rfl

@[simp] theorem behind_append (spot : Spot) (left right : List Char) :
    behind spot (left ++ right) = behind (behind spot left) right := List.foldl_append

theorem isDelimiter_iff {c : Char} : isDelimiter c = true ↔ c ∈ brackets := by
  simp only [isDelimiter, isOpener, isCloser, brackets, bracketPairs, List.flatMap_cons,
    List.flatMap_nil, List.cons_append, List.nil_append, List.mem_cons, List.not_mem_nil,
    Bool.or_eq_true, beq_iff_eq, or_false]
  grind

theorem isQuote_iff {c : Char} : isQuote c = true ↔ c = '\'' ∨ c = '"' := by
  simp [isQuote]

theorem twoMore_iff {quote : Char} {rest : List Char} :
    twoMore quote rest = true ↔ [quote, quote] <+: rest := by
  match rest with
  | [] => simp [twoMore]
  | [a] => simp [twoMore, List.cons_prefix_cons]
  | a :: b :: rest => simp [twoMore, List.cons_prefix_cons, @eq_comm _ quote]

theorem marks_true_prefix_iff {quote c : Char} {rest : List Char} :
    marks true quote <+: c :: rest ↔ c = quote ∧ twoMore quote rest = true := by
  rw [marks, if_pos rfl, List.cons_prefix_cons, twoMore_iff, eq_comm]

theorem marks_false_prefix_iff {quote c : Char} {rest : List Char} :
    marks false quote <+: c :: rest ↔ c = quote := by
  simp [marks, List.cons_prefix_cons, eq_comm]

theorem pair_prefix_iff {a b c : Char} {rest : List Char} :
    [a, b] <+: c :: rest ↔ c = a ∧ rest.head? = some b := by
  cases rest with
  | nil => simp [List.cons_prefix_cons]
  | cons d rest => simp [List.cons_prefix_cons, eq_comm]

/-! ## Steps of the scan -/

/-- A newline means the same in a comment that it ends and in code. -/
theorem scan_newline (spot : Spot) (rest : List Char) :
    scan .code 0 spot ('\n' :: rest) = scan .code 0 (spot.next '\n') rest := rfl

theorem scan_lineComment {body rest : List Char} (spot : Spot) (hbody : '\n' ∉ body)
    (hrest : rest = [] ∨ ['\n'] <+: rest) :
    scan .lineComment 0 spot (body ++ rest) = scan .code 0 (behind spot body) rest := by
  induction body generalizing spot with
  | nil =>
      rcases hrest with rfl | ⟨rest, rfl⟩
      · rfl
      · exact (scan_newline spot rest).symm
  | cons c body ih =>
      rw [List.mem_cons, not_or] at hbody
      simp only [List.cons_append, scan, if_neg (Ne.symm hbody.1), ih _ hbody.2, behind_cons]

theorem scan_blockComment {body : List Char} (start spot : Spot) (rest : List Char)
    (hbody : ¬ ['*', '/'] <:+: body) :
    scan (.blockComment start) 0 spot (body ++ ['*', '/'] ++ rest) =
      scan .code 0 (behind spot (body ++ ['*', '/'])) rest := by
  induction body generalizing spot with
  | nil => simp [scan]
  | cons c body ih =>
      rw [List.infix_cons_iff, not_or] at hbody
      have hopen : ¬ (c = '*' ∧ (body ++ ['*', '/'] ++ rest).head? = some '/') := by
        rintro ⟨rfl, hhead⟩
        cases body with
        | nil => simp at hhead
        | cons d body =>
            exact hbody.1 (pair_prefix_iff.2 ⟨rfl, by simpa using hhead⟩)
      simp only [List.cons_append, scan, if_neg hopen, ih _ hbody.2, behind_cons]

section Text

variable {triple : Bool} {quote : Char} (start spot : Spot)

theorem scan_text_escaped (c : Char) (rest : List Char) :
    scan (.text quote triple start) 0 spot ('\\' :: c :: rest) =
      scan (.text quote triple start) 0 (behind spot ['\\', c]) rest := rfl

theorem scan_text_plain {c : Char} {rest : List Char} (hbackslash : c ≠ '\\')
    (hline : triple = false → c ≠ '\n') (hopen : ¬ marks triple quote <+: c :: rest) :
    scan (.text quote triple start) 0 spot (c :: rest) =
      scan (.text quote triple start) 0 (spot.next c) rest := by
  cases triple with
  | false =>
      rw [marks_false_prefix_iff] at hopen
      simp [scan, hbackslash, hline rfl, hopen]
  | true =>
      rw [marks_true_prefix_iff] at hopen
      simp [scan, hbackslash, hopen]

theorem scan_text_closed (rest : List Char) (hquote : quote ≠ '\\') :
    scan (.text quote triple start) 0 spot (marks triple quote ++ rest) =
      scan .code 0 (behind spot (marks triple quote)) rest := by
  cases triple with
  | false => simp [marks, scan, hquote]
  | true => simp [marks, scan, hquote, twoMore]

theorem scan_text {body : List Char} (rest : List Char) (hquote : quote ≠ '\\')
    (hbody : Inside triple quote body) :
    scan (.text quote triple start) 0 spot (body ++ marks triple quote ++ rest) =
      scan .code 0 (behind spot (body ++ marks triple quote)) rest := by
  induction hbody generalizing spot with
  | nil => exact scan_text_closed start spot rest hquote
  | @escaped c body hbody ih =>
      simp only [List.cons_append, scan_text_escaped, ih, behind_cons, behind_nil]
  | @plain c body hbackslash hline hopen hbody ih =>
      -- the closing quotes end within the string, so what follows it does not matter
      have hopen' : ¬ marks triple quote <+: c :: (body ++ marks triple quote ++ rest) := by
        intro hbegins
        have hwithin : c :: body ++ marks triple quote <+:
            c :: (body ++ marks triple quote ++ rest) := ⟨rest, by simp⟩
        have hlength : (marks triple quote).length ≤ (c :: body ++ marks triple quote).length := by
          simp only [List.length_append]
          omega
        exact hopen (List.prefix_of_prefix_length_le hbegins hwithin hlength)
      simp only [List.cons_append, scan_text_plain start spot hbackslash hline hopen', ih,
        behind_cons]

end Text

/-! ## Pieces as a whole -/

theorem ne_backslash_of_quote {quote : Char} (h : quote = '\'' ∨ quote = '"') :
    quote ≠ '\\' := by
  rcases h with rfl | rfl <;> decide

theorem scan_lineComment_start (spot : Spot) (rest : List Char) :
    scan .code 0 spot ('/' :: '/' :: rest) = scan .lineComment 0 (behind spot ['/', '/']) rest :=
  rfl

theorem scan_blockComment_start (spot : Spot) (rest : List Char) :
    scan .code 0 spot ('/' :: '*' :: rest) =
      scan (.blockComment spot) 0 (behind spot ['/', '*']) rest := rfl

theorem scan_text_start {triple : Bool} {quote : Char} {rest : List Char} (spot : Spot)
    (hquote : quote = '\'' ∨ quote = '"')
    (hsingle : triple = false → ¬ marks true quote <+: quote :: rest) :
    scan .code 0 spot (marks triple quote ++ rest) =
      scan (.text quote triple spot) 0 (behind spot (marks triple quote)) rest := by
  have hisQuote : isQuote quote = true := isQuote_iff.2 hquote
  cases triple with
  | false =>
      have hmore : twoMore quote rest = false := by
        simpa [marks_true_prefix_iff] using hsingle rfl
      simp [marks, scan, hisQuote, hmore]
  | true => simp [marks, scan, hisQuote, twoMore]

theorem scan_code {c : Char} {rest : List Char} (spot : Spot) (hfits : (Piece.code c).Fits rest) :
    scan .code 0 spot (c :: rest) =
      (Piece.code c).tokens spot ++ scan .code 0 (spot.next c) rest := by
  obtain ⟨happ, hquot, hline, hblock⟩ := hfits
  rw [pair_prefix_iff] at hline hblock
  have hquote : isQuote c = false := by simp [isQuote, happ, hquot]
  by_cases hbracket : c ∈ brackets
  · simp [scan, hquote, isDelimiter_iff.2 hbracket, Piece.tokens, Piece.delimiter?, hbracket]
  · have hdelimiter : isDelimiter c = false := by
      rw [← Bool.not_eq_true, isDelimiter_iff]
      exact hbracket
    simp [scan, hquote, hdelimiter, hline, hblock, Piece.tokens, Piece.delimiter?, hbracket]

/-- The scan passes over a piece, finds its delimiter and goes on in code. -/
theorem scan_piece {piece : Piece} {rest : List Char} (spot : Spot) (hfits : piece.Fits rest) :
    scan .code 0 spot (piece.text ++ rest) =
      piece.tokens spot ++ scan .code 0 (behind spot piece.text) rest := by
  cases piece with
  | lineComment body =>
      simp only [Piece.text, List.cons_append, scan_lineComment_start,
        scan_lineComment _ hfits.1 hfits.2]
      rfl
  | blockComment body =>
      simp only [Piece.text, List.cons_append, scan_blockComment_start,
        scan_blockComment _ _ rest hfits]
      rfl
  | quoted triple quote body =>
      obtain ⟨hquote, hbody, hsingle⟩ := hfits
      have hsingle' : triple = false →
          ¬ marks true quote <+: quote :: (body ++ marks triple quote ++ rest) := by
        rintro rfl
        simpa [marks] using hsingle rfl
      have hassoc : marks triple quote ++ body ++ marks triple quote ++ rest =
          marks triple quote ++ (body ++ marks triple quote ++ rest) := by simp
      rw [Piece.text, hassoc, scan_text_start spot hquote hsingle',
        scan_text _ _ _ (ne_backslash_of_quote hquote) hbody]
      simp [Piece.tokens, Piece.delimiter?]
  | code c => exact scan_code spot hfits

end PipelineServer.Source
