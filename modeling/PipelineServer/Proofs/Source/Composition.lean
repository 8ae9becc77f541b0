import Mathlib.Tactic.SplitIfs
import PipelineServer.Proofs.Source.Language
import PipelineServer.Proofs.Source.Places

/-!
Checking a text part by part.

Main statement: `check_append`. Whole lines that draw no message leave no trace in the check of what
follows them, apart from the lines that they take. The scan passes over them piece by piece and
comes out in code with nothing pending, and from there on it only counts lines from further down.
-/

namespace PipelineServer

/-- The same column, some lines further down. -/
def Spot.down (lines : Nat) (s : Spot) : Spot := ⟨s.line + lines, s.column⟩

/-- The same columns, some lines further down. -/
def Span.down (lines : Nat) (s : Span) : Span := ⟨s.start.down lines, s.stop.down lines⟩

/-- The same message, some lines further down. -/
def Message.down (lines : Nat) : Message → Message
  | .syntaxError source span fatal text => .syntaxError source (span.down lines) fatal text
  | .warning source text => .warning source text
  | .exception text => .exception text

theorem Spot.next_down (lines : Nat) (s : Spot) (c : Char) :
    (s.down lines).next c = (s.next c).down lines := by
  unfold next
  split_ifs
  · ext
    · exact Nat.add_right_comm ..
    · rfl
  · rfl

namespace Text

/-- Whole lines end in a newline. -/
theorem Whole.getLast? {text : List Char} (hwhole : Whole text) (hfilled : text ≠ []) :
    text.getLast? = some '\n' := by
  rcases hwhole with hempty | ⟨front, rfl⟩
  · exact absurd hempty hfilled
  · exact List.getLast?_concat

end Text

namespace Source

open Text (Whole)

/-! ### Further down -/

def Token.down (lines : Nat) : Token → Token
  | .delimiter c spot => .delimiter c (spot.down lines)
  | .openText start stop => .openText (start.down lines) (stop.down lines)
  | .openComment start => .openComment (start.down lines)

def Mode.down (lines : Nat) : Mode → Mode
  | .code => .code
  | .lineComment => .lineComment
  | .blockComment start => .blockComment (start.down lines)
  | .text quote triple start => .text quote triple (start.down lines)

def Fault.down (lines : Nat) : Fault → Fault
  | .unexpected closer spot => .unexpected closer (spot.down lines)
  | .missing opener spot => .missing opener (spot.down lines)
  | .openText start stop => .openText (start.down lines) (stop.down lines)
  | .openComment start => .openComment (start.down lines)

theorem Mode.leftOpen_down (lines : Nat) (mode : Mode) (spot : Spot) :
    (mode.down lines).leftOpen (spot.down lines) = (mode.leftOpen spot).map (Token.down lines) := by
  cases mode <;> rfl

/-- The scan looks at characters only, and carries places along. -/
theorem scan_down (lines : Nat) (mode : Mode) (skip : Nat) (spot : Spot) (text : List Char) :
    scan (mode.down lines) skip (spot.down lines) text =
      (scan mode skip spot text).map (Token.down lines) := by
  induction text generalizing mode skip spot with
  | nil => rw [scan_nil, scan_nil, mode.leftOpen_down]
  | cons c rest ih =>
    cases skip with
    | succ skip => simp only [scan, Spot.next_down, ih]
    | zero =>
      cases mode with
      | code =>
        simp only [Mode.down, scan, Spot.next_down]
        split_ifs
        · exact ih (.text c true spot) 2 _
        · exact ih (.text c false spot) 0 _
        · exact congrArg _ (ih .code 0 _)
        · exact ih .lineComment 1 _
        · exact ih (.blockComment spot) 1 _
        · exact ih .code 0 _
      | lineComment =>
        simp only [Mode.down, scan, Spot.next_down]
        split_ifs
        · exact ih .code 0 _
        · exact ih .lineComment 0 _
      | blockComment start =>
        simp only [Mode.down, scan, Spot.next_down]
        split_ifs
        · exact ih .code 1 _
        · exact ih (.blockComment start) 0 _
      | text quote triple start =>
        simp only [Mode.down, scan, Spot.next_down]
        split_ifs
        · exact ih (.text quote triple start) 1 _
        · exact ih .code 0 _
        · exact ih .code 2 _
        · exact congrArg _ (ih .code 0 _)
        · exact ih (.text quote triple start) 0 _

/-- Pairing delimiters looks at characters only, so it commutes with whatever changes places. -/
theorem settle_map {place : Spot → Spot} {token : Token → Token} {fault : Fault → Fault}
    (hdelimiter : ∀ c spot, token (.delimiter c spot) = .delimiter c (place spot))
    (hunexpected : ∀ c spot, fault (.unexpected c spot) = .unexpected c (place spot))
    (hmissing : ∀ c spot, fault (.missing c spot) = .missing c (place spot))
    (hstring : ∀ start stop, ∃ start' stop', token (.openText start stop) = .openText start' stop' ∧
      fault (.openText start stop) = .openText start' stop')
    (hcomment : ∀ start, ∃ start', token (.openComment start) = .openComment start' ∧
      fault (.openComment start) = .openComment start')
    (pending : List (Char × Spot)) (found : List Token) :
    settle (pending.map (Prod.map id place)) (found.map token) =
      (settle pending found).map fault := by
  induction found generalizing pending with
  | nil => simp [settle, hmissing]
  | cons first found ih =>
    cases first with
    | openText start stop =>
      obtain ⟨start', stop', hmoved, hreported⟩ := hstring start stop
      rw [List.map_cons, hmoved, settle, settle, ih, List.map_cons, hreported]
    | openComment start =>
      obtain ⟨start', hmoved, hreported⟩ := hcomment start
      rw [List.map_cons, hmoved, settle, settle, ih, List.map_cons, hreported]
    | delimiter c spot =>
      simp only [List.map_cons, hdelimiter, settle]
      split_ifs
      · exact ih ((c, spot) :: pending)
      · cases pending with
        | nil =>
          rw [List.map_cons, hunexpected]
          exact congrArg _ (ih [])
        | cons top outer =>
          simp only [List.map_cons, Prod.map_fst, id_eq]
          split_ifs
          · exact ih outer
          · rw [List.map_cons, hunexpected]
            exact congrArg _ (ih (top :: outer))

theorem settle_down (lines : Nat) (pending : List (Char × Spot)) (found : List Token) :
    settle (pending.map (Prod.map id (Spot.down lines))) (found.map (Token.down lines)) =
      (settle pending found).map (Fault.down lines) :=
  settle_map (fun _ _ => rfl) (fun _ _ => rfl) (fun _ _ => rfl) (fun _ _ => ⟨_, _, rfl, rfl⟩)
    (fun _ => ⟨_, rfl, rfl⟩) pending found

theorem Fault.toMessage_down (lines : Nat) (source : Path) (f : Fault) :
    (f.down lines).toMessage source = (f.toMessage source).down lines := by
  cases f <;> rfl

/-! ### Behind whole lines -/

/-- Whether a list begins in some way is settled by as many of its characters. -/
theorem prefix_append_iff {begins front : List Char} (hlong : begins.length ≤ front.length)
    (rest : List Char) : begins <+: front ++ rest ↔ begins <+: front := by
  constructor
  · intro h
    exact List.prefix_of_prefix_length_le h (List.prefix_append ..) hlong
  · intro h
    exact h.trans (List.prefix_append ..)

theorem Piece.text_ne_nil (piece : Piece) : piece.text ≠ [] := by
  cases piece with
  | quoted triple quote body => cases triple <;> simp [Piece.text, marks]
  | _ => simp [Piece.text]

/-- A piece of whole lines reads as such whatever follows the lines. -/
theorem Piece.Fits.append {piece : Piece} {rest : List Char} (hfits : piece.Fits rest)
    (hwhole : Whole (piece.text ++ rest)) (further : List Char) : piece.Fits (rest ++ further) := by
  -- the last piece of whole lines ends in a newline, so it is a character of code or a comment
  have hlast : rest = [] → piece.text.getLast? = some '\n' := by
    rintro rfl
    rw [List.append_nil] at hwhole
    exact hwhole.getLast? piece.text_ne_nil
  cases piece with
  | lineComment body =>
    obtain ⟨hplain, rfl | hnewline⟩ := hfits
    · have hinside := List.mem_of_getLast? (hlast rfl)
      simp [Piece.text, hplain] at hinside
    · exact ⟨hplain, .inr (hnewline.trans (List.prefix_append ..))⟩
  | blockComment body => exact hfits
  | quoted triple quote body =>
    obtain ⟨hquote, hinside, hsingle⟩ := hfits
    refine ⟨hquote, hinside, ?_⟩
    rintro rfl
    have hfilled : rest ≠ [] := by
      intro hempty
      have hclosing : (Piece.quoted false quote body).text.getLast? = some quote :=
        List.getLast?_concat
      rcases hquote with rfl | rfl <;> cases hclosing.symm.trans (hlast hempty)
    have hlong : (marks true quote).length ≤ (quote :: body ++ quote :: rest).length := by
      have := List.length_pos_iff.mpr hfilled
      simp [marks]
      omega
    have hregroup : quote :: body ++ quote :: (rest ++ further) =
        (quote :: body ++ quote :: rest) ++ further := by simp
    rw [hregroup, prefix_append_iff hlong]
    exact hsingle rfl
  | code c =>
    by_cases hempty : rest = []
    · obtain rfl : c = '\n' := by simpa [Piece.text] using hlast hempty
      exact ⟨by decide, by decide, by simp, by simp⟩
    · obtain ⟨hsingle, hdouble, hline, hblock⟩ := hfits
      have hsettled : ∀ a b : Char, [a, b] <+: c :: (rest ++ further) ↔ [a, b] <+: c :: rest := by
        intro a b
        have hlong : [a, b].length ≤ (c :: rest).length :=
          Nat.succ_le_succ (List.length_pos_iff.mpr hempty)
        exact prefix_append_iff hlong further
      refine ⟨hsingle, hdouble, ?_, ?_⟩
      · rwa [hsettled]
      · rwa [hsettled]

/-- The scan passes over whole lines that split into pieces, and goes on in code. -/
theorem scan_append {text : List Char} {pieces : List Piece} (hsplits : Splits text pieces)
    (hwhole : Whole text) (spot : Spot) (further : List Char) :
    scan .code 0 spot (text ++ further) =
      scan .code 0 spot text ++ scan .code 0 (behind spot text) further := by
  induction hsplits generalizing spot with
  | nil => rfl
  | @cons piece rest pieces hfits _ ih =>
    rw [List.append_assoc, scan_piece spot (hfits.append hwhole further), scan_piece spot hfits,
      ih hwhole.of_append, behind_append, List.append_assoc]

/-- Delimiters that draw no fault leave nothing pending. -/
theorem settle_append {pending : List (Char × Spot)} {found : List Token}
    (hclean : settle pending found = []) (further : List Token) :
    settle pending (found ++ further) = settle [] further := by
  induction found generalizing pending with
  | nil =>
    obtain rfl : pending = [] := by simpa [settle] using hclean
    rfl
  | cons token found ih =>
    cases token with
    | openText start stop => cases hclean
    | openComment start => cases hclean
    | delimiter c spot =>
      simp only [List.cons_append, settle] at hclean ⊢
      split_ifs at hclean ⊢
      · exact ih hclean
      · cases pending with
        | nil => cases hclean
        | cons top outer =>
          simp only at hclean ⊢
          split_ifs at hclean ⊢
          exact ih hclean

/-- Checking a text behind whole lines that draw no message is checking the text by itself: the
messages are the same and in the same order, as many lines further down as there are newlines in
front. -/
theorem check_append (source : Path) (above below : String) (hwhole : Whole above.toList)
    (hclean : check source above = []) :
    check source (above ++ below) =
      (check source below).map (Message.down (above.toList.count '\n')) := by
  have hfaultless : faults above.toList = [] := List.map_eq_nil_iff.mp hclean
  obtain ⟨word, hfound, -⟩ := faults_eq_nil_iff.mp hfaultless
  obtain ⟨pieces, hsplits⟩ := exists_splits hfound
  have hstart : behind .first above.toList = Spot.first.down (above.toList.count '\n') := by
    rw [behind_whole hwhole, Nat.add_comm]
    rfl
  have hjoined : faults (above ++ below).toList =
      (faults below.toList).map (Fault.down (above.toList.count '\n')) :=
    calc
      faults (above ++ below).toList
        = settle [] (tokens above.toList ++
            scan .code 0 (behind .first above.toList) below.toList) := by
          rw [faults, String.toList_append, tokens, scan_append hsplits hwhole, tokens]
      _ = settle [] (scan .code 0 (behind .first above.toList) below.toList) :=
          settle_append hfaultless _
      _ = settle [] ((tokens below.toList).map (Token.down (above.toList.count '\n'))) := by
          rw [hstart, tokens, ← scan_down, Mode.down]
      _ = (faults below.toList).map (Fault.down (above.toList.count '\n')) := settle_down _ [] _
  simp only [check, hjoined, List.map_map, Function.comp_def, Fault.toMessage_down]

namespace CompositionWitness

def source : Path := .ofText "/w/a.nf"

/-- Two lines with a comment and a string that hold delimiters. -/
def above : String := "x = ')' // \x7b\ny = [ /* ' */ ]\n"

/-- A string that is cut off, and two delimiters without partner. -/
def below : String := "(\n'a\n\x7d"

/-- The three messages about the text stand two lines further down behind the lines. -/
theorem check_append_two_lines :
    Whole above.toList ∧ check source above = [] ∧ (check source below).length = 3 ∧
      check source (above ++ below) = (check source below).map (Message.down 2) := by
  have hwhole : Whole above.toList := .inr (by decide +kernel)
  have hclean : check source above = [] := by decide +kernel
  exact ⟨hwhole, hclean, by decide +kernel, check_append source above below hwhole hclean⟩

end CompositionWitness

end Source

end PipelineServer
