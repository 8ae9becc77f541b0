import PipelineServer.Source.Balance

/-!
Pairing delimiters with a stack accepts exactly the nested words.

Main statement: `settle_eq_nil_iff`. The check of a list of tokens finds no fault just when all of
them are delimiters and these unwind the openers that are pending.
-/

namespace PipelineServer.Source

/-- The delimiters that belong together. -/
def bracketPairs : List (Char × Char) := [('\x7b', '\x7d'), ('(', ')'), ('[', ']')]

/-- Words in which every opener is closed by its partner, and pairs do not cross. -/
inductive Nested : List Char → Prop
  | nil : Nested []
  | pair {opener closer : Char} {inner rest : List Char} (hpair : (opener, closer) ∈ bracketPairs)
      (hinner : Nested inner) (hrest : Nested rest) :
      Nested (opener :: inner ++ closer :: rest)

/-- Words that close the openers `pending`, the first one first, and are nested in between. -/
inductive Unwinds : List Char → List Char → Prop
  | done {word : List Char} (hword : Nested word) : Unwinds [] word
  | close {opener closer : Char} {pending word rest : List Char} (hword : Nested word)
      (hpair : (opener, closer) ∈ bracketPairs) (hrest : Unwinds pending rest) :
      Unwinds (opener :: pending) (word ++ closer :: rest)

theorem isOpener_of_mem_bracketPairs {opener closer : Char}
    (h : (opener, closer) ∈ bracketPairs) : isOpener opener = true ∧ isOpener closer = false := by
  simp only [bracketPairs, List.mem_cons, List.not_mem_nil, or_false, Prod.mk.injEq] at h
  rcases h with ⟨rfl, rfl⟩ | ⟨rfl, rfl⟩ | ⟨rfl, rfl⟩ <;> decide

/-- An opener and the delimiter that closes it are one of the pairs. -/
theorem mem_bracketPairs_iff {opener closer : Char} (hopener : isOpener opener = true) :
    (opener, closer) ∈ bracketPairs ↔ closerOf opener = closer := by
  have hcases : opener = '\x7b' ∨ opener = '(' ∨ opener = '[' := by
    simpa [isOpener, or_assoc] using hopener
  rcases hcases with rfl | rfl | rfl <;> simp [bracketPairs, closerOf, eq_comm]

/-- A nested word that is not empty begins with an opener. -/
theorem Nested.isOpener_head {c : Char} {word : List Char} (h : Nested (c :: word)) :
    isOpener c = true := by
  cases h with
  | pair hpair hinner hrest => exact (isOpener_of_mem_bracketPairs hpair).1

theorem unwinds_nil_iff {pending : List Char} : Unwinds pending [] ↔ pending = [] := by
  constructor
  · intro h
    cases pending with
    | nil => rfl
    | cons opener pending =>
        generalize hword : [] = word at h
        cases h with
        | close hnested hpair hrest => simp at hword
  · rintro rfl
    exact .done .nil

/-- Reading an opener puts it on top of those that are pending. -/
theorem unwinds_opener_iff {opener : Char} {pending word : List Char}
    (hopener : isOpener opener = true) :
    Unwinds pending (opener :: word) ↔ Unwinds (opener :: pending) word := by
  constructor
  · intro h
    generalize hread : opener :: word = read at h
    cases h with
    | done hnested =>
        subst hread
        cases hnested with
        | pair hpair hinner hrest => exact .close hinner hpair (.done hrest)
    | @close o closer pending before rest hbefore hpair hrest =>
        cases hbefore with
        | nil =>
            -- a closer is no opener
            simp only [List.nil_append, List.cons.injEq] at hread
            obtain ⟨rfl, -⟩ := hread
            rw [(isOpener_of_mem_bracketPairs hpair).2] at hopener
            cases hopener
        | @pair first closer' inner rest' hpair' hinner hrest' =>
            simp only [List.cons_append, List.append_assoc, List.cons.injEq] at hread
            obtain ⟨rfl, rfl⟩ := hread
            exact .close hinner hpair' (.close hrest' hpair hrest)
  · intro h
    generalize hstack : opener :: pending = stack at h
    cases h with
    | done hnested => cases hstack
    | @close o closer pending' inner rest hinner hpair hrest =>
        obtain ⟨rfl, rfl⟩ := List.cons.inj hstack
        cases hrest with
        | done hrest => exact .done (.pair hpair hinner hrest)
        | @close o' closer' pending' middle rest hmiddle hpair' hrest =>
            have hassoc : opener :: (inner ++ closer :: (middle ++ closer' :: rest)) =
                (opener :: inner ++ closer :: middle) ++ closer' :: rest := by simp
            rw [hassoc]
            exact .close (.pair hpair hinner hmiddle) hpair' hrest

/-- With nothing pending, any other delimiter is one too many. -/
theorem not_unwinds_nil_closer {closer : Char} {word : List Char}
    (hcloser : isOpener closer = false) : ¬ Unwinds [] (closer :: word) := by
  intro h
  cases h with
  | done hnested =>
      rw [hnested.isOpener_head] at hcloser
      cases hcloser

/-- Reading any other delimiter takes its partner from the top. -/
theorem unwinds_closer_iff {opener closer : Char} {outer word : List Char}
    (hcloser : isOpener closer = false) :
    Unwinds (opener :: outer) (closer :: word) ↔
      (opener, closer) ∈ bracketPairs ∧ Unwinds outer word := by
  constructor
  · intro h
    generalize hread : closer :: word = read at h
    cases h with
    | @close _ closer' _ before rest hbefore hpair hrest =>
        cases before with
        | nil =>
            obtain ⟨rfl, rfl⟩ := List.cons.inj hread
            exact ⟨hpair, hrest⟩
        | cons first before =>
            obtain ⟨rfl, -⟩ := List.cons.inj hread
            rw [hbefore.isOpener_head] at hcloser
            cases hcloser
  · rintro ⟨hpair, hword⟩
    exact .close .nil hpair hword

/-- The delimiters of a list of tokens; nothing if a literal or a comment is left open. -/
def delimiters? : List Token → Option (List Char)
  | [] => some []
  | .delimiter c _ :: rest => (delimiters? rest).map (c :: ·)
  | .openText _ _ :: _ => none
  | .openComment _ :: _ => none

theorem exists_delimiters?_cons_iff {P : List Char → Prop} {c : Char} {spot : Spot}
    {rest : List Token} :
    (∃ word, delimiters? (.delimiter c spot :: rest) = some word ∧ P word) ↔
      ∃ word, delimiters? rest = some word ∧ P (c :: word) := by
  simp only [delimiters?, Option.map_eq_some_iff]
  constructor
  · rintro ⟨_, ⟨word, hrest, rfl⟩, hword⟩
    exact ⟨word, hrest, hword⟩
  · rintro ⟨word, hrest, hword⟩
    exact ⟨_, ⟨word, hrest, rfl⟩, hword⟩

theorem settle_eq_nil_iff {pending : List (Char × Spot)} {tokens : List Token}
    (hpending : ∀ p ∈ pending, isOpener p.1 = true) :
    settle pending tokens = [] ↔
      ∃ word, delimiters? tokens = some word ∧ Unwinds (pending.map Prod.fst) word := by
  induction tokens generalizing pending with
  | nil =>
      simp only [settle, delimiters?, Option.some.injEq, exists_eq_left', unwinds_nil_iff]
      simp
  | cons token rest ih =>
      cases token with
      | openText start stop => simp [settle, delimiters?]
      | openComment start => simp [settle, delimiters?]
      | delimiter c spot =>
          rw [exists_delimiters?_cons_iff]
          cases hopener : isOpener c with
          | true =>
              have hpending' : ∀ p ∈ (c, spot) :: pending, isOpener p.1 = true := by
                intro p hp
                rcases List.mem_cons.1 hp with rfl | hp
                · exact hopener
                · exact hpending p hp
              simp only [settle, hopener, if_true, ih hpending', List.map_cons,
                unwinds_opener_iff hopener]
          | false =>
              cases pending with
              | nil => simp [settle, hopener, not_unwinds_nil_closer hopener]
              | cons top outer =>
                  obtain ⟨opener, place⟩ := top
                  have htop : isOpener opener = true := hpending _ List.mem_cons_self
                  have houter : ∀ p ∈ outer, isOpener p.1 = true :=
                    fun p hp => hpending p (List.mem_cons_of_mem _ hp)
                  simp only [List.map_cons, unwinds_closer_iff hopener,
                    mem_bracketPairs_iff htop]
                  by_cases hcloser : closerOf opener = c
                  · simp [settle, hopener, hcloser, ih houter]
                  · simp [settle, hopener, hcloser]

/-- A text has no fault just when its delimiters form a nested word and nothing is left open. -/
theorem faults_eq_nil_iff {text : List Char} :
    faults text = [] ↔ ∃ word, delimiters? (tokens text) = some word ∧ Nested word := by
  rw [faults, settle_eq_nil_iff (by simp)]
  have hunwinds : ∀ word, Unwinds [] word ↔ Nested word := by
    intro word
    constructor
    · intro h
      cases h with
      | done hword => exact hword
    · exact .done
  simp only [List.map_nil, hunwinds]

end PipelineServer.Source
