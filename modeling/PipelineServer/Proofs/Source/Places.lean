import PipelineServer.Proofs.Source.Pieces
import PipelineServer.Proofs.Text.Offset

/-!
Places in a text, and where the findings of the scan stand.

Every token, and so every fault, is about a character that the scan meets in code, and names that
character's place. `Mode.after` is the step of the scan from one mode to the next, and `reach` a run
of steps. A step finds something about the character it takes or about the one at which its mode
began, so the invariant of a run is that the mode began at such a place.
-/

namespace PipelineServer.Source

theorem behind_line (spot : Spot) (text : List Char) :
    (behind spot text).line = spot.line + text.count '\n' := by
  induction text generalizing spot with
  | nil => rfl
  | cons c text ih =>
    rw [behind_cons, ih, Spot.next]
    split
    · next hnewline =>
      rw [hnewline, List.count_cons_self, Nat.add_right_comm]
      rfl
    · next hother => rw [List.count_cons_of_ne hother]

theorem behind_of_plain {text : List Char} (spot : Spot) (hplain : '\n' ∉ text) :
    behind spot text = ⟨spot.line, spot.column + text.length⟩ := by
  induction text generalizing spot with
  | nil => rfl
  | cons c text ih =>
    rw [List.mem_cons, not_or] at hplain
    rw [behind_cons, ih _ hplain.2, Spot.next, if_neg (Ne.symm hplain.1), List.length_cons]
    ext
    · rfl
    · dsimp only
      omega

theorem behind_whole {above : List Char} (hwhole : Text.Whole above) :
    behind .first above = ⟨above.count '\n' + 1, 1⟩ := by
  rcases hwhole with rfl | ⟨front, rfl⟩
  · rfl
  · have hfirst : Spot.first.line = List.count '\n' ['\n'] := rfl
    rw [behind_append, behind_cons, behind_nil, Spot.next, if_pos rfl, behind_line, hfirst,
      List.count_append, Nat.add_comm (List.count '\n' front)]

/-- A place that the scan has counted, read as an editor position, is that place just if the line
is narrow in front of it. -/
theorem offset?_behind_iff (front rest : List Char) :
    Text.offset? (front ++ rest) (behind .first front).toPosition =
        some (Text.utf8Width front) ↔
      Text.Narrow front := by
  obtain ⟨above, line, rfl, hwhole, hplain⟩ := Text.exists_whole front
  have hplace : (behind .first (above ++ line)).toPosition =
      ⟨above.count '\n', line.length⟩ := by
    rw [behind_append, behind_whole hwhole, behind_of_plain _ hplain]
    ext
    · rfl
    · exact Nat.add_sub_cancel_left ..
  rw [hplace, Text.offset?_eq_iff hwhole hplain, Text.Narrow, Text.lastLine_append hwhole hplain]

/-! ### The scan -/

/-- What the scan is inside of behind the character `c`, and how many of the next characters it has
looked at already. -/
def Mode.after (mode : Mode) (skip : Nat) (spot : Spot) (c : Char) (rest : List Char) :
    Mode × Nat :=
  match skip with
  | skip + 1 => (mode, skip)
  | 0 =>
      match mode with
      | .code =>
          if isQuote c then (.text c (twoMore c rest) spot, if twoMore c rest then 2 else 0)
          else if isDelimiter c then (.code, 0)
          else if c = '/' ∧ rest.head? = some '/' then (.lineComment, 1)
          else if c = '/' ∧ rest.head? = some '*' then (.blockComment spot, 1)
          else (.code, 0)
      | .lineComment => (if c = '\n' then .code else .lineComment, 0)
      | .blockComment start =>
          if c = '*' ∧ rest.head? = some '/' then (.code, 1) else (.blockComment start, 0)
      | .text quote triple start =>
          if c = '\\' then (.text quote triple start, 1)
          else if c = quote ∧ triple = false then (.code, 0)
          else if c = quote ∧ twoMore quote rest then (.code, 2)
          else if c = '\n' ∧ triple = false then (.code, 0)
          else (.text quote triple start, 0)

/-- What the scan is inside of when it has come through `front` to `rest`. -/
def reach (mode : Mode) (skip : Nat) (spot : Spot) : List Char → List Char → Mode × Nat
  | [], _ => (mode, skip)
  | c :: front, rest =>
      let next := mode.after skip spot c (front ++ rest)
      reach next.1 next.2 (spot.next c) front rest

/-- The scan of a text comes to `rest`, behind `front`, in code. -/
def InCode (text front rest : List Char) : Prop :=
  text = front ++ rest ∧ reach .code 0 .first front rest = (.code, 0)

/-- At `spot` the scan of a text meets in code what `begins` asks for. -/
def MetAt (text : List Char) (spot : Spot) (begins : List Char → Prop) : Prop :=
  ∃ front rest, InCode text front rest ∧ spot = behind .first front ∧ begins rest

/-- A string begins here. -/
def BeginsString (rest : List Char) : Prop := ∃ quote, isQuote quote = true ∧ [quote] <+: rest

/-- A block comment begins here. -/
def BeginsComment (rest : List Char) : Prop := ['/', '*'] <+: rest

/-- What a token is about is met at its place. -/
def Token.Stands (text : List Char) : Token → Prop
  | .delimiter c spot => MetAt text spot fun rest => isDelimiter c = true ∧ [c] <+: rest
  | .openText start _ => MetAt text start BeginsString
  | .openComment start => MetAt text start BeginsComment

/-- What a mode was begun by is met at its place. -/
def Mode.Stands (text : List Char) : Mode → Prop
  | .code | .lineComment => True
  | .blockComment start => MetAt text start BeginsComment
  | .text _ _ start => MetAt text start BeginsString

/-- What the scan finds at the character `c`, and the mode it goes on in. -/
inductive Step (spot : Spot) (c : Char) (rest : List Char) :
    Mode → Nat → List Token → Mode → Prop
  | stays {mode : Mode} {skip : Nat} : Step spot c rest mode skip [] mode
  | ends {mode : Mode} : Step spot c rest mode 0 [] .code
  | line : Step spot c rest .code 0 [] .lineComment
  | comment (hopens : ['/', '*'] <+: c :: rest) : Step spot c rest .code 0 [] (.blockComment spot)
  | string {triple : Bool} (hquote : isQuote c = true) :
      Step spot c rest .code 0 [] (.text c triple spot)
  | delimiter (hdelimiter : isDelimiter c = true) :
      Step spot c rest .code 0 [.delimiter c spot] .code
  | cut {quote : Char} {triple : Bool} {start : Spot} :
      Step spot c rest (.text quote triple start) 0 [.openText start spot] .code

theorem scan_after (mode : Mode) (skip : Nat) (spot : Spot) (c : Char) (rest : List Char) :
    let next := mode.after skip spot c rest
    ∃ found, Step spot c rest mode skip found next.1 ∧
      scan mode skip spot (c :: rest) = found ++ scan next.1 next.2 (spot.next c) rest := by
  cases skip with
  | succ skip => exact ⟨[], .stays, by rw [scan]; rfl⟩
  | zero =>
    cases mode with
    | code =>
      by_cases hquote : isQuote c = true
      · simp only [Mode.after, scan, if_pos hquote]
        refine ⟨[], .string hquote, ?_⟩
        by_cases hmore : twoMore c rest = true
        · simp only [hmore, if_true, List.nil_append]
        · simp only [Bool.not_eq_true] at hmore
          simp [hmore]
      by_cases hdelimiter : isDelimiter c = true
      · simp only [Mode.after, scan, if_neg hquote, if_pos hdelimiter]
        exact ⟨[.delimiter c spot], .delimiter hdelimiter, rfl⟩
      by_cases hline : c = '/' ∧ rest.head? = some '/'
      · simp only [Mode.after, scan, if_neg hquote, if_neg hdelimiter, if_pos hline]
        exact ⟨[], .line, rfl⟩
      by_cases hcomment : c = '/' ∧ rest.head? = some '*'
      · simp only [Mode.after, scan, if_neg hquote, if_neg hdelimiter, if_neg hline,
          if_pos hcomment]
        exact ⟨[], .comment (pair_prefix_iff.mpr hcomment), rfl⟩
      · simp only [Mode.after, scan, if_neg hquote, if_neg hdelimiter, if_neg hline,
          if_neg hcomment]
        exact ⟨[], .stays, rfl⟩
    | lineComment =>
      simp only [Mode.after, scan]
      split
      · exact ⟨[], .ends, rfl⟩
      · exact ⟨[], .stays, rfl⟩
    | blockComment start =>
      simp only [Mode.after, scan]
      split
      · exact ⟨[], .ends, rfl⟩
      · exact ⟨[], .stays, rfl⟩
    | text quote triple start =>
      simp only [Mode.after, scan]
      split
      · exact ⟨[], .stays, rfl⟩
      split
      · exact ⟨[], .ends, rfl⟩
      split
      · exact ⟨[], .ends, rfl⟩
      split
      · exact ⟨[.openText start spot], .cut, rfl⟩
      · exact ⟨[], .stays, rfl⟩

theorem reach_append (mode : Mode) (skip : Nat) (spot : Spot) (front more rest : List Char) :
    let reached := reach mode skip spot front (more ++ rest)
    reach mode skip spot (front ++ more) rest =
      reach reached.1 reached.2 (behind spot front) more rest := by
  induction front generalizing mode skip spot with
  | nil => rfl
  | cons c front ih =>
    simp only [List.cons_append, reach, List.append_assoc]
    exact ih ..

/-- The scan goes on from where it has come to. -/
theorem exists_scan_reach (mode : Mode) (skip : Nat) (spot : Spot) (front rest : List Char) :
    let reached := reach mode skip spot front rest
    ∃ found, scan mode skip spot (front ++ rest) =
      found ++ scan reached.1 reached.2 (behind spot front) rest := by
  induction front generalizing mode skip spot with
  | nil => exact ⟨[], rfl⟩
  | cons c front ih =>
    obtain ⟨found, -, hscan⟩ := scan_after mode skip spot c (front ++ rest)
    obtain ⟨later, hlater⟩ := ih (mode.after skip spot c (front ++ rest)).1
      (mode.after skip spot c (front ++ rest)).2 (spot.next c)
    refine ⟨found ++ later, ?_⟩
    rw [List.cons_append, hscan, hlater, List.append_assoc]
    rfl

/-- A step that starts at a place of the text finds what stands there, and goes on in a mode that
began at a place of the text. -/
theorem Step.stands {text front rest : List Char} {c : Char} {mode mode' : Mode} {skip : Nat}
    {found : List Token} (hstep : Step (behind .first front) c rest mode skip found mode')
    (hhere : mode = .code → skip = 0 → InCode text front (c :: rest)) (hbegun : mode.Stands text) :
    (∀ token ∈ found, token.Stands text) ∧ mode'.Stands text := by
  have hone : ∀ c' : Char, [c'] <+: c' :: rest := fun c' => ⟨rest, rfl⟩
  cases hstep with
  | stays => exact ⟨by simp, hbegun⟩
  | ends => exact ⟨by simp, trivial⟩
  | line => exact ⟨by simp, trivial⟩
  | comment hopens => exact ⟨by simp, front, _, hhere rfl rfl, rfl, hopens⟩
  | string hquote => exact ⟨by simp, front, _, hhere rfl rfl, rfl, c, hquote, hone c⟩
  | delimiter hdelimiter =>
    refine ⟨List.forall_mem_singleton.mpr ?_, trivial⟩
    exact ⟨front, _, hhere rfl rfl, rfl, hdelimiter, hone c⟩
  | cut => exact ⟨List.forall_mem_singleton.mpr hbegun, trivial⟩

/-- All that a run of the scan finds is met at its place. -/
theorem scan_stands {text front rest : List Char} {mode : Mode} {skip : Nat}
    (hsplit : text = front ++ rest) (hreach : reach .code 0 .first front rest = (mode, skip))
    (hbegun : mode.Stands text) :
    ∀ token ∈ scan mode skip (behind .first front) rest, token.Stands text := by
  induction rest generalizing front mode skip with
  | nil =>
    rw [scan_nil]
    cases mode with
    | code => simp [Mode.leftOpen]
    | lineComment => simp [Mode.leftOpen]
    | blockComment start => exact List.forall_mem_singleton.mpr hbegun
    | text quote triple start => exact List.forall_mem_singleton.mpr hbegun
  | cons c rest ih =>
    obtain ⟨found, hstep, hscan⟩ := scan_after mode skip (behind .first front) c rest
    have hhere : mode = .code → skip = 0 → InCode text front (c :: rest) := by
      rintro rfl rfl
      exact ⟨hsplit, hreach⟩
    obtain ⟨hnow, hgoes⟩ := hstep.stands hhere hbegun
    have hspot : (behind .first front).next c = behind .first (front ++ [c]) := by simp
    have honward : reach .code 0 .first (front ++ [c]) rest =
        mode.after skip (behind .first front) c rest := by
      rw [reach_append, List.singleton_append, hreach]
      rfl
    rw [hscan, hspot]
    have hlater := ih (by rw [hsplit, List.append_assoc]; rfl) honward hgoes
    intro token htoken
    rcases List.mem_append.mp htoken with htoken | htoken
    · exact hnow token htoken
    · exact hlater token htoken

theorem tokens_stand (text : List Char) : ∀ token ∈ tokens text, token.Stands text :=
  scan_stands (List.nil_append text).symm rfl trivial

/-! ### Faults -/

/-- What a fault is about. -/
def Fault.Begins : Fault → List Char → Prop
  | .unexpected closer _, rest => isCloser closer = true ∧ [closer] <+: rest
  | .missing opener _, rest => isOpener opener = true ∧ [opener] <+: rest
  | .openText _ _, rest => BeginsString rest
  | .openComment _, rest => BeginsComment rest

/-- What a fault is about is met in code, at the start of the fault's span. -/
def Fault.Stands (text : List Char) (f : Fault) : Prop := MetAt text f.span.start f.Begins

theorem MetAt.imp {text : List Char} {spot : Spot} {P Q : List Char → Prop}
    (h : ∀ rest, P rest → Q rest) : MetAt text spot P → MetAt text spot Q := by
  rintro ⟨front, rest, hinCode, rfl, hbegins⟩
  exact ⟨front, rest, hinCode, rfl, h rest hbegins⟩

theorem isCloser_of_not_isOpener {c : Char} (hdelimiter : isDelimiter c = true)
    (hopener : ¬ isOpener c = true) : isCloser c = true := by
  rw [isDelimiter, Bool.or_eq_true] at hdelimiter
  exact hdelimiter.resolve_left hopener

/-- Pairing up delimiters keeps their places. -/
theorem settle_stands {text : List Char} {pending : List (Char × Spot)} {found : List Token}
    (hwaiting : ∀ p ∈ pending, Fault.Stands text (.missing p.1 p.2))
    (hstand : ∀ token ∈ found, token.Stands text) :
    ∀ f ∈ settle pending found, f.Stands text := by
  induction found generalizing pending with
  | nil =>
    intro f hf
    obtain ⟨p, hp, rfl⟩ := List.mem_map.mp hf
    exact hwaiting p (List.mem_reverse.mp hp)
  | cons token found ih =>
    obtain ⟨hfirst, hlater⟩ := List.forall_mem_cons.mp hstand
    cases token with
    | openText start stop => exact List.forall_mem_cons.mpr ⟨hfirst, ih hwaiting hlater⟩
    | openComment start => exact List.forall_mem_cons.mpr ⟨hfirst, ih hwaiting hlater⟩
    | delimiter c spot =>
      by_cases hopener : isOpener c = true
      · have hmissing : Fault.Stands text (.missing c spot) :=
          MetAt.imp (fun rest h => ⟨hopener, h.2⟩) hfirst
        simp only [settle, if_pos hopener]
        exact ih (List.forall_mem_cons.mpr ⟨hmissing, hwaiting⟩) hlater
      · have hunexpected : Fault.Stands text (.unexpected c spot) :=
          MetAt.imp (fun rest h => ⟨isCloser_of_not_isOpener h.1 hopener, h.2⟩) hfirst
        have hreported := List.forall_mem_cons.mpr ⟨hunexpected, ih hwaiting hlater⟩
        cases pending with
        | nil =>
          simp only [settle, if_neg hopener]
          exact hreported
        | cons top outer =>
          simp only [settle, if_neg hopener]
          split
          · exact ih (List.forall_mem_cons.mp hwaiting).2 hlater
          · exact hreported

theorem faults_stand (text : List Char) : ∀ f ∈ faults text, f.Stands text :=
  settle_stands (by simp) (tokens_stand text)

end PipelineServer.Source
