import PipelineServer.Proofs.Source.Composition

/-!
Checking a text whose lines end in a carriage return and a newline.

Main statement: `verdict_withReturns`. A carriage return means nothing to the scan, but behind a
backslash in a string it is what the backslash passes over, and the newline is not passed over any
more. So the text is judged as if no line ended in a backslash. As long as comments and strings end,
that makes a difference just where a string in single quotes goes on over a newline.
-/

namespace PipelineServer

/-- A message without the end of its span. -/
def Message.opening : Message → Message
  | .syntaxError source span fatal text => .syntaxError source ⟨span.start, span.start⟩ fatal text
  | .warning source text => .warning source text
  | .exception text => .exception text

namespace Text

/-- The text with a carriage return in front of every newline. -/
def withReturns (text : List Char) : List Char :=
  text.flatMap fun c => if c = '\n' then ['\r', '\n'] else [c]

@[simp] theorem withReturns_nil : withReturns [] = [] := rfl

@[simp] theorem withReturns_newline (text : List Char) :
    withReturns ('\n' :: text) = '\r' :: '\n' :: withReturns text := rfl

theorem withReturns_cons {c : Char} (hplain : c ≠ '\n') (text : List Char) :
    withReturns (c :: text) = c :: withReturns text := by
  rw [withReturns, List.flatMap_cons, if_neg hplain]
  rfl

@[simp] theorem withReturns_append (front rest : List Char) :
    withReturns (front ++ rest) = withReturns front ++ withReturns rest :=
  List.flatMap_append

theorem withReturns_of_plain {text : List Char} (hplain : '\n' ∉ text) :
    withReturns text = text := by
  induction text with
  | nil => rfl
  | cons c text ih =>
    rw [List.mem_cons, not_or] at hplain
    rw [withReturns_cons (Ne.symm hplain.1), ih hplain.2]

end Text

namespace Source

open Text (withReturns withReturns_cons withReturns_append withReturns_of_plain)

/-- What the check says about a text: its messages without the ends of their spans. -/
def verdict (source : Path) (text : String) : List Message :=
  (check source text).map Message.opening

/-- The text without the backslashes that stand right in front of its newlines. -/
def withoutContinuations : List Char → List Char
  | [] => []
  | c :: rest =>
      if c = '\\' ∧ (withoutContinuations rest).head? = some '\n' then withoutContinuations rest
      else c :: withoutContinuations rest

/-! ### What stands in front of newlines -/

/-- The second text is the first with some backslashes and a carriage return in front of every
newline. -/
inductive Padded : List Char → List Char → Prop
  | nil : Padded [] []
  | cons {c : Char} {text padded : List Char} (hplain : c ≠ '\n') (h : Padded text padded) :
      Padded (c :: text) (c :: padded)
  | newline {backslashes text padded : List Char} (hsoft : ∀ c ∈ backslashes, c = '\\')
      (h : Padded text padded) :
      Padded ('\n' :: text) (backslashes ++ '\r' :: '\n' :: padded)

theorem Padded.return {text padded : List Char} (h : Padded text padded) :
    Padded ('\n' :: text) ('\r' :: '\n' :: padded) :=
  @newline [] _ _ (by simp) h

theorem padded_withReturns (text : List Char) : Padded text (withReturns text) := by
  induction text with
  | nil => exact .nil
  | cons c text ih =>
    by_cases hnewline : c = '\n'
    · subst hnewline
      exact ih.return
    · rw [withReturns_cons hnewline]
      exact .cons hnewline ih

theorem padded_withoutContinuations (text : List Char) :
    Padded (withoutContinuations text) (withReturns text) := by
  induction text with
  | nil => exact .nil
  | cons c text ih =>
    rw [withoutContinuations]
    split
    · next hcontinued =>
      obtain ⟨rfl, hnewline⟩ := hcontinued
      rw [withReturns_cons (by decide)]
      generalize withoutContinuations text = without at ih hnewline
      generalize withReturns text = padded at ih
      cases ih with
      | nil => cases hnewline
      | cons hplain h => exact absurd (Option.some.inj hnewline) hplain
      | newline hsoft h => exact .newline (List.forall_mem_cons.mpr ⟨rfl, hsoft⟩) h
    · by_cases hnewline : c = '\n'
      · subst hnewline
        exact ih.return
      · rw [withReturns_cons hnewline]
        exact .cons hnewline ih

/-- No newline is left that a backslash could pass over. -/
theorem not_infix_withoutContinuations (text : List Char) :
    ¬ ['\\', '\n'] <:+: withoutContinuations text := by
  induction text with
  | nil => simp [withoutContinuations]
  | cons c text ih =>
    rw [withoutContinuations]
    split
    · exact ih
    · next hkept =>
      rw [List.infix_cons_iff, not_or, pair_prefix_iff]
      exact ⟨hkept, ih⟩

/-- Characters that neither are newlines nor are put in front of them. -/
def Firm (c : Char) : Prop := c ≠ '\n' ∧ c ≠ '\r' ∧ c ≠ '\\'

instance (c : Char) : Decidable (Firm c) := inferInstanceAs (Decidable (_ ∧ _ ∧ _))

theorem firm_of_quote {quote : Char} (hquote : quote = '\'' ∨ quote = '"') : Firm quote := by
  rcases hquote with rfl | rfl <;> decide

/-- Looking ahead for firm characters gives the same on both sides. -/
theorem Padded.prefix_iff {begins text padded : List Char} (h : Padded text padded)
    (hfirm : ∀ c ∈ begins, Firm c) : begins <+: padded ↔ begins <+: text := by
  induction begins generalizing text padded with
  | nil => simp
  | cons b begins ih =>
    obtain ⟨⟨hline, hret, hbackslash⟩, hlater⟩ := List.forall_mem_cons.mp hfirm
    cases h with
    | nil => rfl
    | cons hplain h => rw [List.cons_prefix_cons, List.cons_prefix_cons, ih h hlater]
    | @newline backslashes text padded hsoft h =>
      have hnever : ¬ b :: begins <+: backslashes ++ '\r' :: '\n' :: padded := by
        cases backslashes with
        | nil => simp [List.cons_prefix_cons, hret]
        | cons c backslashes =>
          have hfirst := hsoft c List.mem_cons_self
          simp [List.cons_prefix_cons, hfirst, hbackslash]
      simp [hnever, List.cons_prefix_cons, hline]

theorem singleton_prefix_iff {b : Char} {text : List Char} :
    [b] <+: text ↔ text.head? = some b := by
  cases text with
  | nil => simp
  | cons c text => simp [List.cons_prefix_cons, eq_comm]

theorem Padded.head?_iff {b : Char} {text padded : List Char} (h : Padded text padded)
    (hfirm : Firm b) : padded.head? = some b ↔ text.head? = some b := by
  rw [← singleton_prefix_iff, ← singleton_prefix_iff, h.prefix_iff]
  exact List.forall_mem_singleton.mpr hfirm

theorem Padded.twoMore_eq {quote : Char} {text padded : List Char} (h : Padded text padded)
    (hquote : isQuote quote = true) : twoMore quote padded = twoMore quote text := by
  have hfirm : Firm quote := firm_of_quote (isQuote_iff.mp hquote)
  rw [Bool.eq_iff_iff, twoMore_iff, twoMore_iff, h.prefix_iff]
  simp [hfirm]

/-! ### The scan on both sides -/

def Token.opening : Token → Token
  | .delimiter c spot => .delimiter c spot
  | .openText start _ => .openText start start
  | .openComment start => .openComment start

/-- The quote of a string is a quote. -/
def Mode.Quoted : Mode → Prop
  | .text quote _ _ => isQuote quote = true
  | _ => True

/-- Backslashes and a carriage return are passed over in every mode. -/
theorem scan_padding {mode : Mode} {backslashes : List Char} {skip : Nat} (hquoted : mode.Quoted)
    (hsoft : ∀ c ∈ backslashes, c = '\\') (hshort : skip ≤ 1) (spot : Spot) (rest : List Char) :
    scan mode skip spot (backslashes ++ '\r' :: rest) =
      scan mode 0 (behind spot (backslashes ++ ['\r'])) rest := by
  induction backslashes generalizing skip spot with
  | nil =>
    rcases Nat.le_one_iff_eq_zero_or_eq_one.mp hshort with rfl | rfl
    · cases mode with
      | text quote triple start =>
        have hother : ¬ '\r' = quote := by
          rintro rfl
          cases hquoted
        simp [scan, hother]
      | _ => rfl
    · rfl
  | cons c backslashes ih =>
    obtain ⟨rfl, hothers⟩ := List.forall_mem_cons.mp hsoft
    rcases Nat.le_one_iff_eq_zero_or_eq_one.mp hshort with rfl | rfl
    · cases mode with
      | text quote triple start => exact ih hothers (Nat.le_refl 1) _
      | _ => exact ih hothers (Nat.zero_le 1) _
    · exact ih hothers (Nat.zero_le 1) _

/-- A newline that is met in the same mode, perhaps further right on its line, takes the scan to
the same mode and place. -/
theorem scan_newline_opening {mode : Mode} {left right : List Char} {spot spot' : Spot}
    (hquoted : mode.Quoted) (hsame : spot'.next '\n' = spot.next '\n')
    (hlater : ∀ mode' : Mode, mode'.Quoted →
      (scan mode' 0 (spot.next '\n') left).map Token.opening =
        (scan mode' 0 (spot.next '\n') right).map Token.opening) :
    (scan mode 0 spot' ('\n' :: left)).map Token.opening =
      (scan mode 0 spot ('\n' :: right)).map Token.opening := by
  cases mode with
  | code =>
    rw [scan_newline, scan_newline, hsame]
    exact hlater .code trivial
  | lineComment =>
    simp only [scan, hsame, if_true]
    exact hlater .code trivial
  | blockComment start =>
    simp only [scan, hsame, Char.reduceEq, false_and, if_false]
    exact hlater (.blockComment start) trivial
  | text quote triple start =>
    have hother : ¬ '\n' = quote := by
      rintro rfl
      cases hquoted
    cases triple with
    | true =>
      have hpassed : ∀ (spot : Spot) (rest : List Char),
          scan (.text quote true start) 0 spot ('\n' :: rest) =
            scan (.text quote true start) 0 (spot.next '\n') rest := by
        intro spot rest
        simp [scan, hother]
      rw [hpassed, hpassed, hsame]
      exact hlater (.text quote true start) hquoted
    | false =>
      have hcut : ∀ (spot : Spot) (rest : List Char),
          scan (.text quote false start) 0 spot ('\n' :: rest) =
            .openText start spot :: scan .code 0 (spot.next '\n') rest := by
        intro spot rest
        simp [scan, hother]
      rw [hcut, hcut, hsame, List.map_cons, List.map_cons, hlater .code trivial]
      rfl

/-- Characters that are looked ahead at are no newlines. -/
theorem newline_not_mem_take {begins text : List Char} (h : begins <+: text)
    (hplain : '\n' ∉ begins) : '\n' ∉ text.take begins.length := by
  rwa [← List.prefix_iff_eq_take.mp h]

/-- The scan finds the same on both sides, if on the first no newline is passed over. -/
theorem scan_padded {text padded : List Char} (h : Padded text padded)
    (hsmooth : ¬ ['\\', '\n'] <:+: text) (mode : Mode) (skip : Nat) (hquoted : mode.Quoted)
    (hkept : '\n' ∉ text.take skip) (spot : Spot) :
    (scan mode skip spot padded).map Token.opening =
      (scan mode skip spot text).map Token.opening := by
  induction h generalizing mode skip spot with
  | nil => rfl
  | @newline backslashes text padded hsoft h ih =>
    rw [List.infix_cons_iff, not_or] at hsmooth
    cases skip with
    | succ skip => simp at hkept
    | zero =>
      have hplain : '\n' ∉ backslashes ++ ['\r'] := by
        simp only [List.mem_append, List.mem_singleton, not_or]
        exact ⟨fun hinside => absurd (hsoft _ hinside) (by decide), by decide⟩
      have hsame : (behind spot (backslashes ++ ['\r'])).next '\n' = spot.next '\n' := by
        rw [behind_of_plain _ hplain]
        rfl
      rw [scan_padding hquoted hsoft (Nat.zero_le 1)]
      apply scan_newline_opening hquoted hsame
      intro mode' hquoted'
      exact ih hsmooth.2 mode' 0 hquoted' (by simp) _
  | @cons c text padded hplain h ih =>
    rw [List.infix_cons_iff, not_or] at hsmooth
    cases skip with
    | succ skip =>
      rw [List.take_succ_cons, List.mem_cons, not_or] at hkept
      simp only [scan]
      exact ih hsmooth.2 _ _ hquoted hkept.2 _
    | zero =>
      have hslash := h.head?_iff (b := '/') (by decide)
      have hstar := h.head?_iff (b := '*') (by decide)
      cases mode with
      | code =>
        simp only [scan, hslash, hstar]
        by_cases hquote : isQuote c = true
        · rw [if_pos hquote, if_pos hquote, h.twoMore_eq hquote]
          split_ifs with hmore
          · have hkept := newline_not_mem_take (twoMore_iff.mp hmore) (by simp [hplain.symm])
            exact ih hsmooth.2 (.text c true spot) _ hquote hkept _
          · exact ih hsmooth.2 (.text c false spot) 0 hquote (by simp) _
        rw [if_neg hquote, if_neg hquote]
        split_ifs with hdelimiter hline hcomment
        · rw [List.map_cons, List.map_cons, ih hsmooth.2 .code 0 hquoted (by simp)]
        · have hkept := newline_not_mem_take (singleton_prefix_iff.mpr hline.2) (by decide)
          exact ih hsmooth.2 .lineComment _ trivial hkept _
        · have hkept := newline_not_mem_take (singleton_prefix_iff.mpr hcomment.2) (by decide)
          exact ih hsmooth.2 (.blockComment spot) _ trivial hkept _
        · exact ih hsmooth.2 _ 0 hquoted (by simp) _
      | lineComment =>
        simp only [scan, if_neg hplain]
        exact ih hsmooth.2 _ 0 hquoted (by simp) _
      | blockComment start =>
        simp only [scan, hslash]
        split_ifs with hends
        · have hkept := newline_not_mem_take (singleton_prefix_iff.mpr hends.2) (by decide)
          exact ih hsmooth.2 .code _ trivial hkept _
        · exact ih hsmooth.2 _ 0 hquoted (by simp) _
      | text quote triple start =>
        simp only [scan, h.twoMore_eq hquoted]
        split_ifs with hescape hsingle hends hcut
        · have hkept : '\n' ∉ text.take 1 := by
            intro hinside
            cases text with
            | nil => simp at hinside
            | cons d text =>
              obtain rfl : '\n' = d := by simpa using hinside
              exact hsmooth.1 (pair_prefix_iff.mpr ⟨hescape, rfl⟩)
          exact ih hsmooth.2 _ _ hquoted hkept _
        · exact ih hsmooth.2 .code 0 trivial (by simp) _
        · have hkept := newline_not_mem_take (twoMore_iff.mp hends.2)
            (by simp [← hends.1, hplain.symm])
          exact ih hsmooth.2 .code _ trivial hkept _
        · exact absurd hcut.1 hplain
        · exact ih hsmooth.2 _ 0 hquoted (by simp) _

/-! ### Messages -/

def Fault.opening : Fault → Fault
  | .unexpected closer spot => .unexpected closer spot
  | .missing opener spot => .missing opener spot
  | .openText start _ => .openText start start
  | .openComment start => .openComment start

theorem settle_opening (found : List Token) :
    settle [] (found.map Token.opening) = (settle [] found).map Fault.opening :=
  @settle_map id Token.opening Fault.opening (fun _ _ => rfl) (fun _ _ => rfl) (fun _ _ => rfl)
    (fun _ _ => ⟨_, _, rfl, rfl⟩) (fun _ => ⟨_, rfl, rfl⟩) [] found

theorem Fault.toMessage_opening (source : Path) (f : Fault) :
    (f.opening.toMessage source).opening = (f.toMessage source).opening := by
  cases f <;> rfl

/-- Texts in which the scan finds the same are judged alike. -/
theorem verdict_congr (source : Path) {left right : String}
    (hsame : (tokens left.toList).map Token.opening = (tokens right.toList).map Token.opening) :
    verdict source left = verdict source right := by
  have hboth :
      (faults left.toList).map Fault.opening = (faults right.toList).map Fault.opening := by
    rw [faults, faults, ← settle_opening, ← settle_opening, hsame]
  have hsaid : ∀ text : String, verdict source text =
      ((faults text.toList).map Fault.opening).map fun f => (f.toMessage source).opening := by
    intro text
    rw [verdict, check, List.map_map, List.map_map]
    exact List.map_congr_left fun f _ => (f.toMessage_opening source).symm
  rw [hsaid, hsaid, hboth]

theorem openText_mem_settle_iff {start stop : Spot} {pending : List (Char × Spot)}
    {found : List Token} :
    .openText start stop ∈ settle pending found ↔ .openText start stop ∈ found := by
  induction found generalizing pending with
  | nil => simp [settle]
  | cons token found ih =>
    cases token with
    | openText start' stop' => simp [settle, ih]
    | openComment start' => simp [settle, ih]
    | delimiter c spot =>
      simp only [settle]
      split
      · simp [ih]
      · split
        · simp [ih]
        · split <;> simp [ih]

/-- Only a string without an end is reported as one. -/
theorem Fault.eq_openText_of_opening {source : Path} {f : Fault} {start stop : Spot}
    (hsame : (f.toMessage source).opening =
      ((Fault.openText start stop).toMessage source).opening) :
    ∃ stop', f = .openText start stop' := by
  simp only [toMessage, Message.opening, Message.syntaxError.injEq, true_and] at hsame
  obtain ⟨hspan, -, htext⟩ := hsame
  have hchars := congrArg String.toList htext
  cases f <;> simp [Fault.text, Fault.span, Char.toString] at hchars hspan
  exact ⟨_, by rw [hspan]⟩

/-! ### Pieces -/

/-- In what stands between two quotes, a backslash passes over a newline. -/
inductive EscapesNewline : List Char → Prop
  | here (rest : List Char) : EscapesNewline ('\\' :: '\n' :: rest)
  | escaped (c : Char) {rest : List Char} (h : EscapesNewline rest) :
      EscapesNewline ('\\' :: c :: rest)
  | plain {c : Char} {rest : List Char} (hbackslash : c ≠ '\\') (h : EscapesNewline rest) :
      EscapesNewline (c :: rest)

/-- A string in single quotes that goes on over a newline. -/
def Piece.Continued : Piece → Prop
  | .quoted false _ body => EscapesNewline body
  | _ => False

theorem behind_withReturns (spot : Spot) (text : List Char) :
    behind spot (withReturns text) = behind spot text := by
  induction text generalizing spot with
  | nil => rfl
  | cons c text ih =>
    by_cases hnewline : c = '\n'
    · subst hnewline
      exact ih _
    · rw [withReturns_cons hnewline]
      exact ih _

theorem infix_withReturns {a b : Char} {text : List Char} (hfirm : Firm a) (hfirm' : Firm b)
    (habsent : ¬ [a, b] <:+: text) : ¬ [a, b] <:+: withReturns text := by
  induction text with
  | nil => exact habsent
  | cons c text ih =>
    have hboth : ∀ d ∈ [a, b], Firm d := by simp [hfirm, hfirm']
    rw [List.infix_cons_iff, not_or, ← (padded_withReturns (c :: text)).prefix_iff hboth] at habsent
    by_cases hnewline : c = '\n'
    · subst hnewline
      simp [List.infix_cons_iff, List.cons_prefix_cons, hfirm.1, hfirm.2.1, ih habsent.2]
    · rw [withReturns_cons hnewline] at habsent ⊢
      rw [List.infix_cons_iff, not_or]
      exact ⟨habsent.1, ih habsent.2⟩

section Quotes

variable {triple : Bool} {quote : Char} (hfirm : Firm quote)
include hfirm

theorem marks_prefix_withReturns (text : List Char) :
    marks triple quote <+: withReturns text ↔ marks triple quote <+: text := by
  apply (padded_withReturns text).prefix_iff
  cases triple <;> simp [marks, hfirm]

theorem withReturns_marks : withReturns (marks triple quote) = marks triple quote := by
  apply withReturns_of_plain
  cases triple <;> simp [marks, hfirm.1.symm]

/-- Line ends between triple quotes are characters like others. -/
theorem Inside.lineEnd {c : Char} {body : List Char} (hends : c = '\n' ∨ c = '\r')
    (hinside : Inside true quote body) : Inside true quote (c :: body) := by
  have hother : c ≠ '\\' ∧ c ≠ quote := by
    rcases hends with rfl | rfl
    · exact ⟨by decide, hfirm.1.symm⟩
    · exact ⟨by decide, hfirm.2.1.symm⟩
  refine .plain hother.1 (by simp) ?_ hinside
  rw [List.cons_append, marks_true_prefix_iff]
  exact fun hsame => hother.2 hsame.1

theorem Inside.withReturns {body : List Char} (hinside : Inside triple quote body)
    (hwhole : triple = false → ¬ EscapesNewline body) :
    Inside triple quote (withReturns body) := by
  induction hinside with
  | nil => exact .nil
  | @escaped c rest hrest ih =>
    have hlater := ih fun hsingle h => hwhole hsingle (.escaped c h)
    rw [withReturns_cons (by decide)]
    by_cases hnewline : c = '\n'
    · subst hnewline
      cases triple with
      | false => exact absurd (.here rest) (hwhole rfl)
      | true => exact .escaped (hlater.lineEnd hfirm (.inl rfl))
    · rw [withReturns_cons hnewline]
      exact .escaped hlater
  | @plain c rest hbackslash hline hopen hrest ih =>
    have hlater := ih fun hsingle h => hwhole hsingle (.plain hbackslash h)
    by_cases hnewline : c = '\n'
    · subst hnewline
      cases triple with
      | false => exact absurd rfl (hline rfl)
      | true => exact (hlater.lineEnd hfirm (.inl rfl)).lineEnd hfirm (.inr rfl)
    · have hjoined : c :: Text.withReturns rest ++ marks triple quote =
          Text.withReturns (c :: rest ++ marks triple quote) := by
        rw [withReturns_append, withReturns_cons hnewline, withReturns_marks hfirm]
      rw [withReturns_cons hnewline]
      refine .plain hbackslash hline ?_ hlater
      rwa [hjoined, marks_prefix_withReturns hfirm]

/-- A string in single quotes does not turn into one in triple quotes. -/
theorem single_withReturns {body rest : List Char}
    (hsingle : ¬ marks true quote <+: quote :: body ++ quote :: rest) :
    ¬ marks true quote <+: quote :: withReturns body ++ quote :: withReturns rest := by
  have hjoined : quote :: withReturns body ++ quote :: withReturns rest =
      withReturns (quote :: body ++ quote :: rest) := by
    simp [withReturns_cons hfirm.1]
  rwa [hjoined, marks_prefix_withReturns hfirm]

/-- A string that goes on over a newline is cut off there, once a carriage return stands between
the backslash and the newline. -/
theorem scan_continued {body : List Char} (hinside : Inside false quote body)
    (hcontinued : EscapesNewline body) (start spot : Spot) (rest : List Char) :
    ∃ stop, .openText start stop ∈
      scan (.text quote false start) 0 spot (withReturns body ++ rest) := by
  induction hinside generalizing spot with
  | nil => cases hcontinued
  | @escaped c body hrest ih =>
    by_cases hnewline : c = '\n'
    · subst hnewline
      have hother : ¬ '\n' = quote := hfirm.1.symm
      refine ⟨behind spot ['\\', '\r'], ?_⟩
      simp [withReturns_cons, scan, hother]
    · have hlater : EscapesNewline body := by
        cases hcontinued with
        | here => exact absurd rfl hnewline
        | escaped c h => exact h
        | plain hbackslash h => exact absurd rfl hbackslash
      obtain ⟨stop, hfound⟩ := ih hlater (behind spot ['\\', c])
      refine ⟨stop, ?_⟩
      rw [withReturns_cons (by decide), withReturns_cons hnewline, List.cons_append,
        List.cons_append, scan_text_escaped]
      exact hfound
  | @plain c body hbackslash hline hopen hrest ih =>
    have hlater : EscapesNewline body := by
      cases hcontinued with
      | here => exact absurd rfl hbackslash
      | escaped c h => exact absurd rfl hbackslash
      | plain hbackslash h => exact h
    obtain ⟨stop, hfound⟩ := ih hlater (spot.next c)
    refine ⟨stop, ?_⟩
    rw [withReturns_cons (hline rfl), List.cons_append, scan_text_plain start spot hbackslash hline]
    · exact hfound
    · rw [List.cons_append, marks_false_prefix_iff] at hopen
      rwa [marks_false_prefix_iff]

end Quotes

/-- A comment up to the end of its line takes the carriage return there with it. -/
theorem scan_lineComment_withReturns {body rest : List Char} (spot : Spot)
    (hfits : (Piece.lineComment body).Fits rest) :
    scan .code 0 spot ((Piece.lineComment body).text ++ withReturns rest) =
      scan .code 0 (behind spot (Piece.lineComment body).text) (withReturns rest) := by
  obtain ⟨hplain, rfl | ⟨rest, rfl⟩⟩ := hfits
  · exact scan_piece spot ⟨hplain, .inl rfl⟩
  · have hlonger : (Piece.lineComment (body ++ ['\r'])).Fits ('\n' :: withReturns rest) :=
      ⟨by simp [hplain], .inr (List.prefix_append ..)⟩
    have hregroup : (Piece.lineComment body).text ++ withReturns (['\n'] ++ rest) =
        (Piece.lineComment (body ++ ['\r'])).text ++ '\n' :: withReturns rest := by
      simp [Piece.text]
    have hending : (Piece.lineComment (body ++ ['\r'])).text =
        (Piece.lineComment body).text ++ ['\r'] := rfl
    rw [hregroup, scan_piece spot hlonger, hending, behind_append]
    rfl

/-- A piece is passed over with carriage returns as without, unless it is a string that goes on
over a newline. -/
theorem scan_piece_withReturns {piece : Piece} {rest : List Char} (spot : Spot)
    (hfits : piece.Fits rest) (hwhole : ¬ piece.Continued) :
    scan .code 0 spot (withReturns (piece.text ++ rest)) =
      piece.tokens spot ++ scan .code 0 (behind spot piece.text) (withReturns rest) := by
  rw [withReturns_append, ← behind_withReturns spot piece.text]
  cases piece with
  | lineComment body =>
    have hsame : withReturns (Piece.lineComment body).text = (Piece.lineComment body).text :=
      withReturns_of_plain (by simp [Piece.text, hfits.1])
    rw [hsame]
    exact scan_lineComment_withReturns spot hfits
  | blockComment body =>
    have hsame : withReturns (Piece.blockComment body).text =
        (Piece.blockComment (withReturns body)).text := by
      simp [Piece.text, withReturns_cons]
    rw [hsame]
    exact scan_piece spot (infix_withReturns (by decide) (by decide) hfits)
  | quoted triple quote body =>
    obtain ⟨hquote, hinside, hsingle⟩ := hfits
    have hfirm := firm_of_quote hquote
    have hsame : withReturns (Piece.quoted triple quote body).text =
        (Piece.quoted triple quote (withReturns body)).text := by
      simp [Piece.text, withReturns_marks hfirm]
    rw [hsame]
    apply scan_piece spot
    refine ⟨hquote, hinside.withReturns hfirm ?_,
      fun honce => single_withReturns hfirm (hsingle honce)⟩
    rintro rfl
    exact hwhole
  | code c =>
    by_cases hnewline : c = '\n'
    · subst hnewline
      rfl
    · have hsame : withReturns (Piece.code c).text = (Piece.code c).text :=
        withReturns_cons hnewline []
      rw [hsame]
      apply scan_piece spot
      have hline : ∀ d ∈ ['/', '/'], Firm d := by simp [Firm]
      have hblock : ∀ d ∈ ['/', '*'], Firm d := by simp [Firm]
      rw [Piece.Fits, ← withReturns_cons hnewline, (padded_withReturns _).prefix_iff hline,
        (padded_withReturns _).prefix_iff hblock]
      exact hfits

theorem exists_openText_of_continued {piece : Piece} {rest : List Char} (spot : Spot)
    (hfits : piece.Fits rest) (hcontinued : piece.Continued) :
    ∃ start stop, .openText start stop ∈ scan .code 0 spot (withReturns (piece.text ++ rest)) := by
  cases piece with
  | quoted triple quote body =>
    cases triple with
    | true => cases hcontinued
    | false =>
      obtain ⟨hquote, hinside, hsingle⟩ := hfits
      have hfirm := firm_of_quote hquote
      have hapart : withReturns ((Piece.quoted false quote body).text ++ rest) =
          marks false quote ++ (withReturns body ++ (quote :: withReturns rest)) := by
        simp [Piece.text, marks, withReturns_cons hfirm.1]
      have honce : false = false →
          ¬ marks true quote <+: quote :: (withReturns body ++ (quote :: withReturns rest)) :=
        fun _ => single_withReturns hfirm (hsingle rfl)
      rw [hapart, scan_text_start spot hquote honce]
      exact ⟨spot, scan_continued hfirm hinside hcontinued spot _ _⟩
  | _ => cases hcontinued

/-! ### Whole texts -/

theorem openText_not_mem_of_splits {text : List Char} {pieces : List Piece}
    (hsplits : Splits text pieces) (spot start stop : Spot) :
    .openText start stop ∉ scan .code 0 spot text := by
  induction hsplits generalizing spot with
  | nil => simp [Mode.leftOpen]
  | @cons piece rest pieces hfits _ ih =>
    rw [scan_piece spot hfits, List.mem_append, not_or]
    exact ⟨by simp [Piece.tokens], ih _⟩

theorem scan_withReturns {text : List Char} {pieces : List Piece} (hsplits : Splits text pieces)
    (hwhole : ∀ piece ∈ pieces, ¬ piece.Continued) (spot : Spot) :
    scan .code 0 spot (withReturns text) = scan .code 0 spot text := by
  induction hsplits generalizing spot with
  | nil => rfl
  | @cons piece rest pieces hfits _ ih =>
    obtain ⟨hfirst, hothers⟩ := List.forall_mem_cons.mp hwhole
    rw [scan_piece_withReturns spot hfits hfirst, scan_piece spot hfits, ih hothers]

theorem exists_openText_of_splits {text : List Char} {pieces : List Piece}
    (hsplits : Splits text pieces) (hcontinued : ∃ piece ∈ pieces, piece.Continued) (spot : Spot) :
    ∃ start stop, .openText start stop ∈ scan .code 0 spot (withReturns text) := by
  induction hsplits generalizing spot with
  | nil => simp at hcontinued
  | @cons piece rest pieces hfits _ ih =>
    by_cases hfirst : piece.Continued
    · exact exists_openText_of_continued spot hfits hfirst
    · have hothers : ∃ piece ∈ pieces, piece.Continued := by simpa [hfirst] using hcontinued
      obtain ⟨start, stop, hfound⟩ := ih hothers (behind spot piece.text)
      refine ⟨start, stop, ?_⟩
      rw [scan_piece_withReturns spot hfits hfirst]
      exact List.mem_append_right _ hfound

/-- With a carriage return in front of every newline, a text draws the messages that it draws
without the backslashes at the ends of its lines. If its comments and strings all end, these are the
messages about the text itself just if no string in single quotes goes on over a newline. -/
theorem verdict_withReturns (source : Path) (text : String) :
    verdict source (.ofList (withReturns text.toList)) =
        verdict source (.ofList (withoutContinuations text.toList)) ∧
      ∀ pieces, Splits text.toList pieces →
        (verdict source (.ofList (withReturns text.toList)) = verdict source text ↔
          ∀ piece ∈ pieces, ¬ piece.Continued) := by
  constructor
  · apply verdict_congr
    rw [String.toList_ofList, String.toList_ofList]
    exact scan_padded (padded_withoutContinuations text.toList)
      (not_infix_withoutContinuations text.toList) .code 0 trivial (by simp) .first
  · intro pieces hsplits
    constructor
    · intro hsame piece hpiece hcontinued
      obtain ⟨start, stop, hfound⟩ :=
        exists_openText_of_splits hsplits ⟨piece, hpiece, hcontinued⟩ .first
      have hreported : ((Fault.openText start stop).toMessage source).opening ∈
          verdict source (.ofList (withReturns text.toList)) := by
        apply List.mem_map_of_mem
        apply List.mem_map_of_mem
        rw [String.toList_ofList]
        exact openText_mem_settle_iff.mpr hfound
      rw [hsame, verdict, check, List.map_map] at hreported
      obtain ⟨f, hf, hopening⟩ := List.mem_map.mp hreported
      obtain ⟨stop', rfl⟩ := Fault.eq_openText_of_opening hopening
      exact openText_not_mem_of_splits hsplits _ _ _ (openText_mem_settle_iff.mp hf)
    · intro hwhole
      apply verdict_congr
      rw [String.toList_ofList, tokens, tokens, scan_withReturns hsplits hwhole]

namespace LineEndingsWitness

def source : Path := .ofText "/w/a.nf"

/-- A string in single quotes that goes on over a newline. -/
def continued : String := "'a\\\nb'"

/-- The string ends, and there is nothing to report. With a carriage return it is cut off at the end
of its first line, and its closing quote begins another one. -/
theorem continued_string_cut :
    '\r' ∉ continued.toList ∧ check source continued = [] ∧
      check source (.ofList (withReturns continued.toList)) =
        [(Fault.openText ⟨1, 1⟩ ⟨1, 5⟩).toMessage source,
          (Fault.openText ⟨2, 2⟩ ⟨2, 3⟩).toMessage source] ∧
      verdict source (.ofList (withReturns continued.toList)) ≠ verdict source continued := by
  decide +kernel

/-- A string in triple quotes that goes on over a newline, and a delimiter without partner. -/
def blockText : String := "'''a\\\n'''("

def pieces : List Piece := [.quoted true '\'' ['a', '\\', '\n'], .code '(']

theorem verdict_withReturns_triple :
    Splits blockText.toList pieces ∧ (∀ piece ∈ pieces, ¬ piece.Continued) ∧
      verdict source (.ofList (withReturns blockText.toList)) = verdict source blockText ∧
      (verdict source blockText).length = 1 := by
  have hinside : Inside true '\'' ['a', '\\', '\n'] :=
    .plain (by decide) (by simp) (by decide) (.escaped .nil)
  have hfits : (Piece.quoted true '\'' ['a', '\\', '\n']).Fits ['('] :=
    ⟨.inl rfl, hinside, by simp⟩
  have hparen : (Piece.code '(').Fits [] := ⟨by decide, by decide, by decide, by decide⟩
  have hsplits : Splits blockText.toList pieces := .cons hfits (.cons hparen .nil)
  have hwhole : ∀ piece ∈ pieces, ¬ piece.Continued := by simp [pieces, Piece.Continued]
  exact ⟨hsplits, hwhole, ((verdict_withReturns source blockText).2 pieces hsplits).mpr hwhole,
    by decide +kernel⟩

end LineEndingsWitness

end Source

end PipelineServer
