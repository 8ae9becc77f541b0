import Mathlib.Data.List.Count
import Mathlib.Data.List.Pairwise
import PipelineServer.Proofs.Source.Order

/-!
What becomes of every delimiter.

`Settles` is the pairing of delimiters as a relation: besides the faults it says which delimiters
were paired. Every token is accounted for once, as one side of a pair or by a fault
(`Settles.count_eq`). The openers that wait for their closers stand in the order of the text, so a
pair that is closed has nothing pending inside it, and pairs do not cross.
-/

namespace PipelineServer.Source

/-- A delimiter with its place. -/
abbrev Delimiter := Char × Spot

def Delimiter.token (d : Delimiter) : Token := .delimiter d.1 d.2

/-- The finding a fault reports. -/
def Fault.token : Fault → Token
  | .unexpected closer spot => .delimiter closer spot
  | .missing opener spot => .delimiter opener spot
  | .openText start stop => .openText start stop
  | .openComment start => .openComment start

def Fault.isMissing : Fault → Bool
  | .missing _ _ => true
  | _ => false

/-- The fault of an opener that is left over. -/
def Delimiter.missing (d : Delimiter) : Fault := .missing d.1 d.2

theorem Delimiter.token_inj {d e : Delimiter} : d.token = e.token ↔ d = e := by
  simp [token, Prod.ext_iff]

theorem Fault.start_token (f : Fault) : f.token.start = f.span.start := by
  cases f <;> rfl

/-- With `pending` waiting, reading tokens makes `pairs`, in the order of their closers, reports
the faults `early` on the way, and leaves the openers `left` over, in the order of the text. -/
inductive Settles : List Delimiter → List Token → List (Delimiter × Delimiter) → List Fault →
    List Delimiter → Prop
  | done {pending : List Delimiter} : Settles pending [] [] [] pending.reverse
  | text {pending left : List Delimiter} {start stop : Spot} {rest : List Token}
      {pairs : List (Delimiter × Delimiter)} {early : List Fault}
      (h : Settles pending rest pairs early left) :
      Settles pending (.openText start stop :: rest) pairs (.openText start stop :: early) left
  | comment {pending left : List Delimiter} {start : Spot} {rest : List Token}
      {pairs : List (Delimiter × Delimiter)} {early : List Fault}
      (h : Settles pending rest pairs early left) :
      Settles pending (.openComment start :: rest) pairs (.openComment start :: early) left
  | opener {pending left : List Delimiter} {d : Delimiter} {rest : List Token}
      {pairs : List (Delimiter × Delimiter)} {early : List Fault} (hopener : isOpener d.1 = true)
      (h : Settles (d :: pending) rest pairs early left) :
      Settles pending (d.token :: rest) pairs early left
  | pair {pending left : List Delimiter} {top d : Delimiter} {rest : List Token}
      {pairs : List (Delimiter × Delimiter)} {early : List Fault} (hfits : closerOf top.1 = d.1)
      (h : Settles pending rest pairs early left) :
      Settles (top :: pending) (d.token :: rest) ((top, d) :: pairs) early left
  | stray {pending left : List Delimiter} {d : Delimiter} {rest : List Token}
      {pairs : List (Delimiter × Delimiter)} {early : List Fault} (hcloser : ¬ isOpener d.1 = true)
      (hunfit : ∀ top ∈ pending.head?, closerOf top.1 ≠ d.1)
      (h : Settles pending rest pairs early left) :
      Settles pending (d.token :: rest) pairs (.unexpected d.1 d.2 :: early) left

theorem exists_settles (pending : List Delimiter) (found : List Token) :
    ∃ pairs early left, Settles pending found pairs early left ∧
      settle pending found = early ++ left.map Delimiter.missing := by
  induction found generalizing pending with
  | nil => exact ⟨[], [], pending.reverse, .done, rfl⟩
  | cons token found ih =>
    cases token with
    | openText start stop =>
      obtain ⟨pairs, early, left, h, hfaults⟩ := ih pending
      exact ⟨pairs, _ :: early, left, .text h, congrArg _ hfaults⟩
    | openComment start =>
      obtain ⟨pairs, early, left, h, hfaults⟩ := ih pending
      exact ⟨pairs, _ :: early, left, .comment h, congrArg _ hfaults⟩
    | delimiter c spot =>
      simp only [settle]
      split
      · next hopener =>
        obtain ⟨pairs, early, left, h, hfaults⟩ := ih ((c, spot) :: pending)
        exact ⟨pairs, early, left, .opener hopener h, hfaults⟩
      · next hcloser =>
        have hreported : ∀ pending : List Delimiter, (∀ top ∈ pending.head?, closerOf top.1 ≠ c) →
            ∃ pairs early left, Settles pending (.delimiter c spot :: found) pairs early left ∧
              .unexpected c spot :: settle pending found =
                early ++ left.map Delimiter.missing := by
          intro pending hunfit
          obtain ⟨pairs, early, left, h, hfaults⟩ := ih pending
          exact ⟨pairs, _ :: early, left, .stray (d := (c, spot)) hcloser hunfit h,
            congrArg _ hfaults⟩
        split
        · exact hreported [] (by simp)
        · next opener place outer =>
          split
          · next hfits =>
            obtain ⟨pairs, early, left, h, hfaults⟩ := ih outer
            exact ⟨_ :: pairs, early, left, .pair (d := (c, spot)) hfits h, hfaults⟩
          · next hunfit => exact hreported _ (by simpa using hunfit)

/-- Tokens in the order in which they begin. -/
def Ordered (found : List Token) : Prop := found.Pairwise fun t u => t.start < u.start

/-- A place that is not strictly between the two sides of a pair. -/
def Outside (spot : Spot) (p : Delimiter × Delimiter) : Prop := spot < p.1.2 ∨ p.2.2 < spot

namespace Settles

variable {pending left : List Delimiter} {found : List Token}
  {pairs : List (Delimiter × Delimiter)} {early : List Fault}

/-- Every token ends up in one place. -/
theorem count_eq (h : Settles pending found pairs early left) (token : Token) :
    (pending.map Delimiter.token).count token + found.count token =
      (pairs.map fun p => p.1.token).count token + (pairs.map fun p => p.2.token).count token +
        (early.map Fault.token).count token + (left.map Delimiter.token).count token := by
  induction h with
  | done => simp
  | text h ih => simp only [List.map_cons, List.count_cons, Fault.token] at ih ⊢; omega
  | comment h ih => simp only [List.map_cons, List.count_cons, Fault.token] at ih ⊢; omega
  | opener hopener h ih => simp only [List.map_cons, List.count_cons] at ih ⊢; omega
  | pair hfits h ih => simp only [List.map_cons, List.count_cons] at ih ⊢; omega
  | stray hcloser hunfit h ih =>
    simp only [List.map_cons, List.count_cons, Fault.token, Delimiter.token] at ih ⊢; omega

/-- What is reported on the way is reported in the order in which it is found. -/
theorem early_sublist (h : Settles pending found pairs early left) :
    (early.map Fault.token).Sublist found := by
  induction h with
  | done => exact List.nil_sublist _
  | text h ih => exact ih.cons_cons _
  | comment h ih => exact ih.cons_cons _
  | opener hopener h ih => exact ih.cons _
  | pair hfits h ih => exact ih.cons _
  | stray hcloser hunfit h ih => exact ih.cons_cons _

theorem early_kinds (h : Settles pending found pairs early left) :
    ∀ f ∈ early, f.isMissing = false := by
  induction h with
  | done => exact List.forall_mem_nil _
  | text h ih => exact List.forall_mem_cons.mpr ⟨rfl, ih⟩
  | comment h ih => exact List.forall_mem_cons.mpr ⟨rfl, ih⟩
  | opener hopener h ih => exact ih
  | pair hfits h ih => exact ih
  | stray hcloser hunfit h ih => exact List.forall_mem_cons.mpr ⟨rfl, ih⟩

/-- What is left over stands as it was found, behind what was pending. -/
theorem left_sublist (h : Settles pending found pairs early left) :
    (left.map Delimiter.token).Sublist (pending.reverse.map Delimiter.token ++ found) := by
  induction h with
  | done => simp
  | text h ih => exact ih.trans ((List.sublist_cons_self ..).append_left _)
  | comment h ih => exact ih.trans ((List.sublist_cons_self ..).append_left _)
  | opener hopener h ih => simpa using ih
  | pair hfits h ih =>
    refine ih.trans (List.Sublist.append ?_ (List.sublist_cons_self ..))
    rw [List.reverse_cons, List.map_append]
    exact List.sublist_append_left ..
  | stray hcloser hunfit h ih => exact ih.trans ((List.sublist_cons_self ..).append_left _)

/-- Pairs come in the order of their closers. -/
theorem closers_sublist (h : Settles pending found pairs early left) :
    (pairs.map fun p => p.2.token).Sublist found := by
  induction h with
  | done => exact List.nil_sublist _
  | text h ih => exact ih.cons _
  | comment h ih => exact ih.cons _
  | opener hopener h ih => exact ih.cons _
  | pair hfits h ih => exact ih.cons_cons _
  | stray hcloser hunfit h ih => exact ih.cons _

/-- The opener of a pair was pending or is found. -/
theorem opener_mem (h : Settles pending found pairs early left) {p : Delimiter × Delimiter}
    (hp : p ∈ pairs) : p.1.token ∈ pending.reverse.map Delimiter.token ++ found := by
  have hcounted : 0 < (pairs.map fun p => p.1.token).count p.1.token :=
    List.count_pos_iff.mpr (List.mem_map.mpr ⟨p, hp, rfl⟩)
  have htotal := h.count_eq p.1.token
  by_contra hmissed
  rw [List.mem_append, not_or, List.map_reverse, List.mem_reverse] at hmissed
  rw [List.count_eq_zero.mpr hmissed.1, List.count_eq_zero.mpr hmissed.2] at htotal
  omega

theorem closer_mem (h : Settles pending found pairs early left) {p : Delimiter × Delimiter}
    (hp : p ∈ pairs) : p.2.token ∈ found :=
  h.closers_sublist.subset (List.mem_map.mpr ⟨p, hp, rfl⟩)

/-- Both sides of a pair are of one kind. -/
theorem mem_bracketPairs (h : Settles pending found pairs early left)
    (hopeners : ∀ d ∈ pending, isOpener d.1 = true) :
    ∀ p ∈ pairs, (p.1.1, p.2.1) ∈ bracketPairs := by
  induction h with
  | done => exact List.forall_mem_nil _
  | text h ih => exact ih hopeners
  | comment h ih => exact ih hopeners
  | opener hopener h ih => exact ih (List.forall_mem_cons.mpr ⟨hopener, hopeners⟩)
  | pair hfits h ih =>
    obtain ⟨hfirst, hothers⟩ := List.forall_mem_cons.mp hopeners
    exact List.forall_mem_cons.mpr ⟨(mem_bracketPairs_iff hfirst).mpr hfits, ih hothers⟩
  | stray hcloser hunfit h ih => exact ih hopeners

/-- When `d` closes `top`, all else that is pending begins in front of the two, and all that is
found later behind them. -/
theorem apart_of_ordered {top d : Delimiter} {rest : List Token}
    (hordered : Ordered ((top :: pending).reverse.map Delimiter.token ++ d.token :: rest)) :
    top.2 < d.2 ∧ (∀ token ∈ rest, d.2 < token.start) ∧
      (∀ token ∈ pending.reverse.map Delimiter.token ++ rest,
        token.start < top.2 ∨ d.2 < token.start) ∧
      Ordered (pending.reverse.map Delimiter.token ++ rest) := by
  have hregroup : (top :: pending).reverse.map Delimiter.token ++ d.token :: rest =
      pending.reverse.map Delimiter.token ++ top.token :: d.token :: rest := by simp
  rw [hregroup, Ordered, List.pairwise_append] at hordered
  obtain ⟨houter, hinner, hacross⟩ := hordered
  rw [List.pairwise_cons, List.pairwise_cons] at hinner
  obtain ⟨hbehindTop, hbehindCloser, hlater⟩ := hinner
  refine ⟨hbehindTop _ List.mem_cons_self, hbehindCloser, ?_, List.pairwise_append.mpr
    ⟨houter, hlater, fun t ht u hu =>
      hacross t ht u (List.mem_cons_of_mem _ (List.mem_cons_of_mem _ hu))⟩⟩
  intro token htoken
  rcases List.mem_append.mp htoken with htoken | htoken
  · exact .inl (hacross token htoken _ List.mem_cons_self)
  · exact .inr (hbehindCloser token htoken)

/-- In a row of pairs, an opener comes before its closer, later openers stand in front of the pair
or behind it, and so does all that is left over. -/
theorem nested (h : Settles pending found pairs early left)
    (hordered : Ordered (pending.reverse.map Delimiter.token ++ found)) :
    (∀ p ∈ pairs, p.1.2 < p.2.2) ∧ pairs.Pairwise (fun p q => Outside q.1.2 p) ∧
      ∀ d ∈ left, ∀ p ∈ pairs, Outside d.2 p := by
  -- a token that is neither opened nor closed changes nothing
  have hdrop : ∀ {pending : List Delimiter} {token : Token} {rest : List Token},
      Ordered (pending.reverse.map Delimiter.token ++ token :: rest) →
        Ordered (pending.reverse.map Delimiter.token ++ rest) :=
    fun hordered => hordered.sublist ((List.sublist_cons_self ..).append_left _)
  induction h with
  | done => exact ⟨List.forall_mem_nil _, .nil, fun _ _ => List.forall_mem_nil _⟩
  | text h ih => exact ih (hdrop hordered)
  | comment h ih => exact ih (hdrop hordered)
  | opener hopener h ih => exact ih (by simpa using hordered)
  | pair hfits h ih =>
    obtain ⟨hbefore, hlater, houtside, hremaining⟩ := apart_of_ordered hordered
    obtain ⟨hwithin, hrow, hbeyond⟩ := ih hremaining
    refine ⟨List.forall_mem_cons.mpr ⟨hbefore, hwithin⟩, List.pairwise_cons.mpr ⟨?_, hrow⟩, ?_⟩
    · intro q hq
      exact houtside _ (h.opener_mem hq)
    · intro e he
      refine List.forall_mem_cons.mpr ⟨?_, hbeyond e he⟩
      exact houtside _ (h.left_sublist.subset (List.mem_map_of_mem he))
  | stray hcloser hunfit h ih => exact ih (hdrop hordered)

end Settles

/-- Two pairs cross if one begins inside the other and ends outside of it. -/
def Crosses (p q : Delimiter × Delimiter) : Prop := p.1.2 < q.1.2 ∧ q.1.2 < p.2.2 ∧ p.2.2 < q.2.2

/-- The pair `q` is closed behind `p`, and does not begin inside it. -/
def ClosedBehind (p q : Delimiter × Delimiter) : Prop := p.2.2 < q.2.2 ∧ Outside q.1.2 p

theorem Settles.not_crosses {pending left : List Delimiter} {found : List Token}
    {pairs : List (Delimiter × Delimiter)} {early : List Fault}
    (h : Settles pending found pairs early left)
    (hordered : Ordered (pending.reverse.map Delimiter.token ++ found))
    {p q : Delimiter × Delimiter} (hp : p ∈ pairs) (hq : q ∈ pairs) : ¬ Crosses p q := by
  rintro ⟨hbegins, hinside, hends⟩
  have hclosers : Ordered (pairs.map fun p => p.2.token) :=
    (List.pairwise_append.mp hordered).2.1.sublist h.closers_sublist
  have hrow : pairs.Pairwise ClosedBehind :=
    (List.pairwise_map.mp hclosers).and (h.nested hordered).2.1
  -- of two pairs in the row, one is closed behind the other
  have hsymmetric : Std.Symm fun p q => ClosedBehind p q ∨ ClosedBehind q p := ⟨fun _ _ => Or.symm⟩
  have heither : pairs.Pairwise fun p q => ClosedBehind p q ∨ ClosedBehind q p := hrow.imp Or.inl
  have hdiffer : p ≠ q := by
    rintro rfl
    exact lt_irrefl _ hbegins
  rcases heither.forall hp hq hdiffer with ⟨-, hbefore | hbehind⟩ | ⟨hafter, -⟩
  · exact lt_asymm hbegins hbefore
  · exact lt_asymm hinside hbehind
  · exact lt_asymm hends hafter

/-! ### Messages -/

/-- Different faults draw different messages. -/
theorem Fault.toMessage_injective (source : Path) :
    Function.Injective (Fault.toMessage source) := by
  intro f g hsame
  simp only [toMessage, Message.syntaxError.injEq, true_and] at hsame
  obtain ⟨hspan, -, htext⟩ := hsame
  have hchars := congrArg String.toList htext
  -- the words of two kinds of faults differ, and those of one kind name the delimiter
  cases f <;> cases g <;>
    simp [Fault.text, Fault.span, Span.ofLength, Span.onLine, Char.toString] at hchars hspan ⊢
  · exact ⟨hchars, Spot.ext hspan.1 hspan.2⟩
  · exact ⟨hchars.2, Spot.ext hspan.1 hspan.2⟩
  · exact hspan
  · exact Spot.ext hspan.1 hspan.2

/-- A fault's span does not end before it starts. -/
theorem Fault.start_le_stop {f : Fault} (hforward : f.token.Forward) :
    f.span.start ≤ f.span.stop := by
  cases f with
  | openText start stop => exact hforward
  | _ => exact Spot.le_iff.mpr (.inr ⟨rfl, Nat.le_add_right ..⟩)

/-- A delimiter that the scan meets in code. -/
def Met (text : List Char) (d : Delimiter) : Prop := d.token.Stands text

/-- How often a delimiter is a side of one of the pairs. -/
def timesPaired (pairs : List (Delimiter × Delimiter)) (d : Delimiter) : Nat :=
  pairs.countP fun p => p.1 = d ∨ p.2 = d

/-- How often the messages say that a closer is unexpected. -/
def timesUnexpected (source : Path) (messages : List Message) (d : Delimiter) : Nat :=
  messages.count ((Fault.unexpected d.1 d.2).toMessage source)

/-- How often the messages say that the closer of an opener is missing. -/
def timesMissing (source : Path) (messages : List Message) (d : Delimiter) : Nat :=
  messages.count ((Fault.missing d.1 d.2).toMessage source)

/-- An account of a text's delimiters and messages: which delimiters are paired, and which faults
are reported `early`, on the way through the text, and `late`, at its end. -/
structure Account (source : Path) (text : String) (pairs : List (Delimiter × Delimiter))
    (early late : List Fault) : Prop where
  messages : check source text = (early ++ late).map (Fault.toMessage source)
  /-- Every delimiter in code is a side of one pair, or a closer with one message, or an opener with
  one message. -/
  once : ∀ d, Met text.toList d →
    let paired := timesPaired pairs d
    let unexpected := timesUnexpected source (check source text) d
    let missing := timesMissing source (check source text) d
    (paired = 1 ∧ unexpected = 0 ∧ missing = 0) ∨
      (isCloser d.1 = true ∧ paired = 0 ∧ unexpected = 1 ∧ missing = 0) ∨
      (isOpener d.1 = true ∧ paired = 0 ∧ unexpected = 0 ∧ missing = 1)
  /-- A pair is an opener and, behind it, a closer of the same kind. -/
  pair : ∀ p ∈ pairs, Met text.toList p.1 ∧ Met text.toList p.2 ∧ p.1.2 < p.2.2 ∧
    (p.1.1, p.2.1) ∈ bracketPairs
  uncrossed : ∀ p ∈ pairs, ∀ q ∈ pairs, ¬ Crosses p q
  /-- No opener whose closer is missing lies inside a pair. -/
  outside : ∀ d : Delimiter, d.missing ∈ late → ∀ p ∈ pairs, ¬ (p.1.2 < d.2 ∧ d.2 < p.2.2)
  /-- A message starts at the line and column of the character it is about. -/
  place : ∀ f ∈ early ++ late, ∃ front rest, InCode text.toList front rest ∧ f.Begins rest ∧
    f.span.start = ⟨front.count '\n' + 1, (Text.lastLine front).length + 1⟩
  forward : ∀ f ∈ early ++ late, f.span.start ≤ f.span.stop
  apart : (early ++ late).Pairwise fun f g => f.span.start ≠ g.span.start
  /-- The messages about missing closers come last. -/
  kinds : (∀ f ∈ early, f.isMissing = false) ∧ ∀ f ∈ late, f.isMissing = true
  rising : (early.Pairwise fun f g => f.span.start < g.span.start) ∧
    late.Pairwise fun f g => f.span.start < g.span.start

theorem count_token (faults : List Fault) (d : Delimiter) :
    (faults.map Fault.token).count d.token =
      faults.count (.unexpected d.1 d.2) + faults.count d.missing := by
  induction faults with
  | nil => rfl
  | cons f faults ih =>
    cases f <;> simp [Fault.token, Delimiter.token, Delimiter.missing, List.count_cons] at ih ⊢ <;>
      omega

theorem timesPaired_eq {pairs : List (Delimiter × Delimiter)} (hdiffer : ∀ p ∈ pairs, p.1 ≠ p.2)
    (d : Delimiter) :
    timesPaired pairs d = (pairs.map fun p => p.1.token).count d.token +
      (pairs.map fun p => p.2.token).count d.token := by
  induction pairs with
  | nil => rfl
  | cons p pairs ih =>
    obtain ⟨hfirst, hothers⟩ := List.forall_mem_cons.mp hdiffer
    have hrest := ih hothers
    rw [timesPaired] at hrest ⊢
    rw [List.countP_cons, hrest, List.map_cons, List.map_cons, List.count_cons, List.count_cons]
    by_cases hopens : p.1 = d
    · have hcloses : p.2 ≠ d := fun hsame => hfirst (hopens.trans hsame.symm)
      simp [hopens, hcloses, Delimiter.token_inj]
      omega
    · simp [hopens, Delimiter.token_inj]
      omega

section Reported

variable {source : Path} {text : String} {d : Delimiter}

/-- Only closers are unexpected. -/
theorem isCloser_of_unexpected (hreported : timesUnexpected source (check source text) d ≠ 0) :
    isCloser d.1 = true := by
  rw [timesUnexpected, check, List.count_map_of_injective _ _ (Fault.toMessage_injective source),
    ← Nat.pos_iff_ne_zero, List.count_pos_iff] at hreported
  obtain ⟨_, _, _, _, hcloser, _⟩ := faults_stand _ _ hreported
  exact hcloser

/-- Only openers miss a closer. -/
theorem isOpener_of_missing (hreported : timesMissing source (check source text) d ≠ 0) :
    isOpener d.1 = true := by
  rw [timesMissing, check, List.count_map_of_injective _ _ (Fault.toMessage_injective source),
    ← Nat.pos_iff_ne_zero, List.count_pos_iff] at hreported
  obtain ⟨_, _, _, _, hopener, _⟩ := faults_stand _ _ hreported
  exact hopener

end Reported

section Account

variable {source : Path} {text : String} {pairs : List (Delimiter × Delimiter)}
  {early : List Fault} {left : List Delimiter}
  (h : Settles [] (tokens text.toList) pairs early left)
  (hsettled : faults text.toList = early ++ left.map Delimiter.missing)
include h hsettled

/-- Every token of a text is a side of a pair or reported. -/
theorem count_tokens (token : Token) :
    (tokens text.toList).count token =
      (pairs.map fun p => p.1.token).count token + (pairs.map fun p => p.2.token).count token +
        ((faults text.toList).map Fault.token).count token := by
  have htokenOf : Fault.token ∘ Delimiter.missing = Delimiter.token := rfl
  have htotal := h.count_eq token
  rw [hsettled, List.map_append, List.map_map, htokenOf, List.count_append]
  simp only [List.map_nil, List.count_nil] at htotal
  omega

theorem met_once {d : Delimiter} (hmet : Met text.toList d) :
    timesPaired pairs d + timesUnexpected source (check source text) d +
      timesMissing source (check source text) d = 1 := by
  have hordered : Ordered (tokens text.toList) := tokens_ordered _
  have hdiffer : ∀ p ∈ pairs, p.1 ≠ p.2 := by
    intro p hp hsame
    exact ((h.nested hordered).1 p hp).ne (congrArg Prod.snd hsame)
  have honce : (tokens text.toList).count d.token = 1 :=
    List.count_eq_one_of_mem (tokens_nodup _) (delimiter_mem_tokens_iff.mpr hmet)
  rw [count_tokens h hsettled, count_token, ← timesPaired_eq hdiffer] at honce
  rw [timesUnexpected, timesMissing, check,
    List.count_map_of_injective _ _ (Fault.toMessage_injective source),
    List.count_map_of_injective _ _ (Fault.toMessage_injective source), Nat.add_assoc]
  exact honce

/-- A delimiter in code is in one of three classes. -/
theorem met_class {d : Delimiter} (hmet : Met text.toList d) :
    let paired := timesPaired pairs d
    let unexpected := timesUnexpected source (check source text) d
    let missing := timesMissing source (check source text) d
    (paired = 1 ∧ unexpected = 0 ∧ missing = 0) ∨
      (isCloser d.1 = true ∧ paired = 0 ∧ unexpected = 1 ∧ missing = 0) ∨
      (isOpener d.1 = true ∧ paired = 0 ∧ unexpected = 0 ∧ missing = 1) := by
  intro paired unexpected missing
  have htotal : paired + unexpected + missing = 1 := met_once h hsettled hmet
  rcases Nat.eq_zero_or_pos paired with hpaired | hpaired
  · rcases Nat.eq_zero_or_pos unexpected with hunexpected | hunexpected
    · have hreported : missing ≠ 0 := by omega
      exact .inr (.inr ⟨isOpener_of_missing hreported, hpaired, hunexpected, by omega⟩)
    · have hreported : unexpected ≠ 0 := by omega
      exact .inr (.inl ⟨isCloser_of_unexpected hreported, hpaired, by omega, by omega⟩)
  · exact .inl ⟨by omega, by omega, by omega⟩

theorem token_mem_of_fault {f : Fault} (hf : f ∈ faults text.toList) :
    f.token ∈ tokens text.toList := by
  have hreported : 0 < ((faults text.toList).map Fault.token).count f.token :=
    List.count_pos_iff.mpr (List.mem_map_of_mem hf)
  rw [← List.count_pos_iff, count_tokens h hsettled]
  omega

theorem faults_apart :
    (faults text.toList).Pairwise fun f g => f.span.start ≠ g.span.start := by
  have hdistinct : ((faults text.toList).map Fault.token).Nodup := by
    rw [List.nodup_iff_count_le_one]
    intro token
    have honce := List.nodup_iff_count_le_one.mp (tokens_nodup text.toList) token
    rw [count_tokens h hsettled] at honce
    omega
  refine (List.pairwise_map.mp hdistinct).imp_of_mem ?_
  intro f g hf hg hdiffer hsame
  rw [← f.start_token, ← g.start_token] at hsame
  exact hdiffer (token_eq_of_start (token_mem_of_fault h hsettled hf)
    (token_mem_of_fault h hsettled hg) hsame)

end Account

/-- Every delimiter in code is matched or reported exactly once, pairs do not cross, and every
message starts at the place of what it is about. -/
theorem delimiters_matched_or_reported (source : Path) (text : String) :
    ∃ pairs early late, Account source text pairs early late := by
  obtain ⟨pairs, early, left, h, hsettled⟩ := exists_settles [] (tokens text.toList)
  change faults text.toList = _ at hsettled
  have hordered : Ordered (tokens text.toList) := tokens_ordered _
  obtain ⟨hwithin, -, hbeyond⟩ := h.nested hordered
  refine ⟨pairs, early, left.map Delimiter.missing, congrArg _ hsettled, ?_, ?_, ?_, ?_, ?_, ?_, ?_,
    ⟨h.early_kinds, ?_⟩, ?_, ?_⟩
  · intro d hmet
    exact met_class h hsettled hmet
  · intro p hp
    exact ⟨delimiter_mem_tokens_iff.mp (h.opener_mem hp),
      delimiter_mem_tokens_iff.mp (h.closer_mem hp), hwithin p hp,
      h.mem_bracketPairs (List.forall_mem_nil _) p hp⟩
  · intro p hp q hq
    exact h.not_crosses hordered hp hq
  · intro d hd p hp
    rintro ⟨hbehindOpener, hbeforeCloser⟩
    obtain ⟨e, he, hsame⟩ := List.mem_map.mp hd
    obtain rfl : e = d := by simpa [Delimiter.missing, Prod.ext_iff] using hsame
    rcases hbeyond e he p hp with hbefore | hbehind
    · exact lt_asymm hbehindOpener hbefore
    · exact lt_asymm hbeforeCloser hbehind
  · intro f hf
    rw [← hsettled] at hf
    obtain ⟨front, rest, hinCode, hstart, hbegins⟩ := faults_stand _ f hf
    exact ⟨front, rest, hinCode, hbegins, hstart.trans (behind_first front)⟩
  · intro f hf
    rw [← hsettled] at hf
    exact Fault.start_le_stop (tokens_forward _ _ (token_mem_of_fault h hsettled hf))
  · rw [← hsettled]
    exact faults_apart h hsettled
  · intro f hf
    obtain ⟨d, -, rfl⟩ := List.mem_map.mp hf
    rfl
  · have hrow : Ordered (early.map Fault.token) := hordered.sublist h.early_sublist
    refine (List.pairwise_map.mp hrow).imp ?_
    intro f g hbefore
    rwa [f.start_token, g.start_token] at hbefore
  · have hrow : Ordered (left.map Delimiter.token) := hordered.sublist h.left_sublist
    rw [Ordered, List.pairwise_map] at hrow
    exact List.pairwise_map.mpr hrow

namespace MatchingWitness

def source : Path := .ofText "/w/a.nf"

/-- A pair around a stray closer, behind an opener without a closer; below it a string and a comment
without an end. -/
def broken : String := "\x7b ( ] )\n'x\n/* y"

/-- The four messages are one of each kind, and the delimiter that none of them names is paired. -/
theorem delimiters_matched_or_reported_broken :
    check source broken =
        [.syntaxError source ⟨⟨1, 5⟩, ⟨1, 6⟩⟩ true "Unexpected ']'",
          .syntaxError source ⟨⟨2, 1⟩, ⟨2, 3⟩⟩ true "Unterminated string literal",
          .syntaxError source ⟨⟨3, 1⟩, ⟨3, 3⟩⟩ false "Unterminated comment",
          .syntaxError source ⟨⟨1, 1⟩, ⟨1, 2⟩⟩ true "Missing '\x7d' to close '\x7b'"] ∧
      ∃ pairs early late, Account source broken pairs early late ∧
        timesPaired pairs ('(', ⟨1, 3⟩) = 1 := by
  have hmessages : check source broken =
      [.syntaxError source ⟨⟨1, 5⟩, ⟨1, 6⟩⟩ true "Unexpected ']'",
        .syntaxError source ⟨⟨2, 1⟩, ⟨2, 3⟩⟩ true "Unterminated string literal",
        .syntaxError source ⟨⟨3, 1⟩, ⟨3, 3⟩⟩ false "Unterminated comment",
        .syntaxError source ⟨⟨1, 1⟩, ⟨1, 2⟩⟩ true "Missing '\x7d' to close '\x7b'"] := by
    decide +kernel
  have hmet : Met broken.toList ('(', ⟨1, 3⟩) :=
    delimiter_mem_tokens_iff.mp (by decide +kernel)
  have hunexpected : timesUnexpected source (check source broken) ('(', ⟨1, 3⟩) = 0 := by
    decide +kernel
  have hmissing : timesMissing source (check source broken) ('(', ⟨1, 3⟩) = 0 := by
    decide +kernel
  obtain ⟨pairs, early, late, haccount⟩ := delimiters_matched_or_reported source broken
  refine ⟨hmessages, pairs, early, late, haccount, ?_⟩
  have honce := haccount.once _ hmet
  simp only [hunexpected, hmissing] at honce
  omega

end MatchingWitness

end PipelineServer.Source
