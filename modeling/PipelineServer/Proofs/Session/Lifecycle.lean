import Mathlib.Data.List.Chain
import PipelineServer.Compiler.Scripted
import PipelineServer.Proofs.Session.Manager

/-!
The recorded life of the sessions is what happened.

A manager is used in rounds: a session is prepared, which may fail in two ways, and what comes of it
is compiled. `Manager.journal` has all transitions of a run. The history keeps the last of them, the
state is where they lead, and a session is live exactly in the states that say so.
-/

namespace PipelineServer

namespace History

/-- The history keeps the last of the transitions `all`, as many as it has room for. -/
def Keeps (h : History) (all : List Transition) : Prop :=
  h.transitions = all.drop (all.length - h.limit)

@[simp] theorem record_limit (h : History) (t : Transition) : (h.record t).limit = h.limit := by
  unfold record
  split <;> rfl

@[simp] theorem foldl_record_limit (ts : List Transition) (h : History) :
    (ts.foldl record h).limit = h.limit := by
  induction ts generalizing h with
  | nil => rfl
  | cons t rest ih => rw [List.foldl_cons, ih, record_limit]

theorem Keeps.record {h : History} {all : List Transition} (hkeeps : h.Keeps all) (t : Transition) :
    (h.record t).Keeps (all ++ [t]) := by
  rw [Keeps] at hkeeps
  rw [Keeps, record_limit, List.length_append, List.length_singleton, History.record]
  by_cases hnone : h.limit = 0
  · simp [hnone, hkeeps]
  rw [if_neg hnone]
  have hlength : h.transitions.length = min all.length h.limit := by
    rw [hkeeps, List.length_drop]
    omega
  by_cases hfull : h.limit ≤ h.transitions.length
  · have hnext : all.length + 1 - h.limit = all.length - h.limit + 1 := by omega
    simp only [if_pos hfull]
    rw [hkeeps, List.drop_drop, hnext, List.drop_append_of_le_length (by omega)]
  · have hroom : all.length + 1 - h.limit = 0 := by omega
    have hold : all.length - h.limit = 0 := by omega
    simp only [if_neg hfull]
    rw [hkeeps, hroom, hold, List.drop_zero, List.drop_zero]

theorem Keeps.foldl_record {h : History} {all : List Transition} (hkeeps : h.Keeps all)
    (ts : List Transition) : (ts.foldl History.record h).Keeps (all ++ ts) := by
  induction ts generalizing h all with
  | nil => simpa using hkeeps
  | cons t rest ih => simpa using ih (hkeeps.record t)

end History

/-- Every transition into `replaced` comes from the session that goes and is followed at once by one
to the session that comes, which is another. -/
def HandsOver (ts : List Transition) : Prop :=
  ∀ before t later previous current, ts = before ++ t :: later →
    t.target = .replaced previous current →
    (∃ reused, t.source = .active previous reused) ∧ current ≠ previous ∧
      ∃ next rest, later = next :: rest ∧ next.target = .active current false

theorem HandsOver.append {ts us : List Transition} (hts : HandsOver ts) (hus : HandsOver us) :
    HandsOver (ts ++ us) := by
  intro before t later previous current hsplit htarget
  rcases List.append_eq_append_iff.1 hsplit with ⟨middle, rfl, hrest⟩ | ⟨middle, rfl, hrest⟩
  · exact hus middle t later previous current hrest htarget
  · rcases List.cons_eq_append_iff.1 hrest with ⟨rfl, hrest⟩ | ⟨tail, rfl, rfl⟩
    · exact hus [] t later previous current hrest.symm htarget
    · obtain ⟨hsource, hne, next, rest, rfl, hnext⟩ :=
        hts before t tail previous current rfl htarget
      exact ⟨hsource, hne, next, rest ++ us, rfl, hnext⟩

/-- A transition into any other state has nothing to hand over. -/
theorem handsOver_singleton {t : Transition}
    (h : ∀ previous current, t.target ≠ .replaced previous current) : HandsOver [t] := by
  intro before u later previous current hsplit htarget
  have hmem : u ∈ [t] := hsplit ▸ List.mem_append_right before List.mem_cons_self
  rw [List.mem_singleton] at hmem
  exact absurd (hmem ▸ htarget) (h previous current)

/-- The two transitions from one session to another. -/
theorem handsOver_pair {t u : Transition} {previous current : SessionId} {reused : Bool}
    (hsource : t.source = .active previous reused) (hother : current ≠ previous)
    (htarget : t.target = .replaced previous current) (hnext : u.target = .active current false) :
    HandsOver [t, u] := by
  rintro (_ | ⟨first, rest⟩) v later p c hsplit hv
  · obtain ⟨rfl, rfl⟩ := List.cons.inj hsplit
    cases htarget.symm.trans hv
    exact ⟨⟨reused, hsource⟩, hother, u, [], rfl, hnext⟩
  · have hmem : v ∈ [u] := (List.cons.inj hsplit).2 ▸ List.mem_append_right rest List.mem_cons_self
    rw [List.mem_singleton] at hmem
    cases hnext.symm.trans (hmem ▸ hv)

/-- One use of a manager: a session is prepared for the configuration, the documents and the disk of
the moment, and then compiled up to some phases, one after the other. -/
structure Round where
  config : Config
  documents : DocumentStore
  disk : FileTree
  phases : List Phase

namespace Manager

variable {F : Frontend}

/-- Compiles the live session, if there is one. -/
def compile (m : Manager F) (phase : Phase) : Manager F :=
  match m.session with
  | none => m
  | some session =>
      let answer := F.compile m.frontend phase session
      { m with frontend := answer.1, session := some answer.2.1 }

/-- The manager after a round. -/
def round (m : Manager F) (r : Round) : Manager F :=
  r.phases.foldl compile (m.prepare r.config r.documents r.disk).manager

/-- The manager after some rounds. -/
def after (m : Manager F) : List Round → Manager F
  | [] => m
  | r :: rest => (m.round r).after rest

/-- The transitions a round makes: what a new history keeps of it. -/
def moves (m : Manager F) (r : Round) : List Transition :=
  ({ m with history := .new History.defaultLimit }.round r).history.transitions

/-- The transitions some rounds make, none left out. -/
def journal (m : Manager F) : List Round → List Transition
  | [] => []
  | r :: rest => m.moves r ++ (m.round r).journal rest

/-- What preparing a session comes to: the transitions it makes, and the state and the session it
ends with. -/
inductive Outcome (m m' : Manager F) : List Transition → Prop
  | failed {reason event : String} (hsession : m'.session = none)
      (hstate : m'.state = .unusable reason) : Outcome m m' [⟨m.state, .unusable reason, event⟩]
  | live {session : F.Session} {reused : Bool} {event : String}
      (hsession : m'.session = some session) (hstate : m'.state = .active (F.id session) reused) :
      Outcome m m' [⟨m.state, .active (F.id session) reused, event⟩]
  | replaced {old session : F.Session} {first second : String} (hbefore : m.session = some old)
      (hother : F.id session ≠ F.id old) (hsession : m'.session = some session)
      (hstate : m'.state = .active (F.id session) false) :
      Outcome m m' [⟨m.state, .replaced (F.id old) (F.id session), first⟩,
        ⟨.replaced (F.id old) (F.id session), .active (F.id session) false, second⟩]

theorem recordOutcome_same (m : Manager F) (id : SessionId) (changed : Nat) :
    m.recordOutcome (some id) id changed =
      m.transition (.active id true) (toString changed ++ " changed file(s)") := by
  rw [recordOutcome, if_pos rfl]

theorem recordOutcome_other (m : Manager F) {old id : SessionId} (h : id ≠ old) (changed : Nat) :
    (m.recordOutcome (some old) id changed).1 =
      ((m.transition (.replaced old id) "session recreated").1.transition (.active id false)
        "session built").1 := by
  have hne : some old ≠ some id := fun hsome => h (Option.some.inj hsome).symm
  rw [recordOutcome, if_neg hne]

/-- The frontend came up with `session`: the transitions say whether it is another one. -/
theorem recordOutcome_outcome {m m' : Manager F} {session : F.Session} (state : F.State)
    (changed : Nat) (hsession : m'.session = some session)
    (hstate : m'.state = ({ m with frontend := state, session := none }.recordOutcome
      (m.session.map F.id) (F.id session) changed).1.state) :
    ∃ ts, Outcome m m' ts ∧
      ∀ h, ({ m with history := h, frontend := state, session := none }.recordOutcome
        (m.session.map F.id) (F.id session) changed).1.history = ts.foldl History.record h := by
  cases hbefore : m.session with
  | none =>
      rw [hbefore] at hstate
      exact ⟨[⟨m.state, .active (F.id session) false, "session built"⟩], .live hsession hstate,
        fun h => rfl⟩
  | some old =>
      rw [hbefore, Option.map_some] at hstate
      by_cases hsame : F.id session = F.id old
      · rw [← hsame, recordOutcome_same] at hstate
        refine ⟨[⟨m.state, .active (F.id session) true, toString changed ++ " changed file(s)"⟩],
          .live hsession hstate, fun h => ?_⟩
        rw [Option.map_some, ← hsame, recordOutcome_same]
        rfl
      · rw [recordOutcome_other _ hsame] at hstate
        refine ⟨[⟨m.state, .replaced (F.id old) (F.id session), "session recreated"⟩,
          ⟨.replaced (F.id old) (F.id session), .active (F.id session) false, "session built"⟩],
          .replaced hbefore hsame hsession hstate, fun h => ?_⟩
        rw [Option.map_some, recordOutcome_other _ hsame]
        rfl

/-- Whatever history there is, it is the same transitions that are added to it. -/
theorem prepare_outcome (m : Manager F) (config : Config) (documents : DocumentStore)
    (disk : FileTree) :
    ∃ ts, Outcome m (m.prepare config documents disk).manager ts ∧
      ∀ h, ({ m with history := h }.prepare config documents disk).manager.history =
        ts.foldl History.record h := by
  cases hpurge : purge disk m.outputDirectory? with
  | error failure =>
      obtain ⟨e, left⟩ := failure
      refine ⟨[⟨m.state, .unusable e.message, "purge failed"⟩], .failed ?_ ?_, fun h => ?_⟩
      · rw [prepare_of_purge_error hpurge]
        rfl
      · rw [prepare_of_purge_error hpurge]
        rfl
      · rw [prepare_of_purge_error (m := { m with history := h }) hpurge]
        rfl
  | ok result =>
      obtain ⟨purged, deleted⟩ := result
      cases hconfigure : F.configure m.frontend purged config documents.drained documents.changed
          (handOn config m.session).1 with
      | mk state answer =>
          cases answer with
          | error e =>
              refine ⟨[⟨m.state, .unusable (SessionError.configure e).message, "configure failed"⟩],
                .failed ?_ ?_, fun h => ?_⟩
              · rw [prepare_of_configure_error hpurge hconfigure]
                rfl
              · rw [prepare_of_configure_error hpurge hconfigure]
                rfl
              · rw [prepare_of_configure_error (m := { m with history := h }) hpurge hconfigure]
                rfl
          | ok session =>
              have hsession : (m.prepare config documents disk).manager.session = some session := by
                rw [prepare_of_configured hpurge hconfigure]
              have hstate : (m.prepare config documents disk).manager.state = _ :=
                congrArg (·.manager.state) (prepare_of_configured hpurge hconfigure)
              obtain ⟨ts, houtcome, hhistory⟩ :=
                recordOutcome_outcome state documents.changed.size hsession hstate
              refine ⟨ts, houtcome, fun h => ?_⟩
              rw [prepare_of_configured (m := { m with history := h }) hpurge hconfigure]
              exact hhistory h

/-- Compiling is not recorded. -/
theorem foldl_compile_record (phases : List Phase) (m : Manager F) :
    (phases.foldl compile m).state = m.state ∧ (phases.foldl compile m).history = m.history := by
  induction phases generalizing m with
  | nil => exact ⟨rfl, rfl⟩
  | cons phase rest ih =>
      have hstep : (m.compile phase).state = m.state ∧ (m.compile phase).history = m.history := by
        unfold compile
        split <;> exact ⟨rfl, rfl⟩
      exact ⟨(ih _).1.trans hstep.1, (ih _).2.trans hstep.2⟩

/-- Compiling keeps the identity of the live session, if sessions keep theirs. -/
theorem foldl_compile_id
    (hkeeps : ∀ state phase session, F.id (F.compile state phase session).2.1 = F.id session)
    (phases : List Phase) (m : Manager F) :
    (phases.foldl compile m).session.map F.id = m.session.map F.id := by
  induction phases generalizing m with
  | nil => rfl
  | cons phase rest ih =>
      rw [List.foldl_cons, ih, compile]
      split
      · rfl
      · rename_i session hlive
        rw [hlive, Option.map_some, Option.map_some, hkeeps]

theorem moves_eq {m : Manager F} {r : Round} {ts : List Transition}
    (hts : Outcome m (m.prepare r.config r.documents r.disk).manager ts)
    (hhistory : ∀ h, ({ m with history := h }.prepare r.config r.documents r.disk).manager.history =
      ts.foldl History.record h) : m.moves r = ts := by
  have hkept : (ts.foldl History.record (.new History.defaultLimit)).transitions = ts := by
    cases hts <;> rfl
  rw [moves, round, (foldl_compile_record _ _).2, hhistory, hkept]

/-- What the rounds of a manager preserve, with `all` transitions made so far. -/
structure Truthful (m : Manager F) (all : List Transition) : Prop where
  limit : m.history.limit = History.defaultLimit
  kept : m.history.Keeps all
  linked : all.IsChain fun t u => t.target = u.source
  first : ∀ t ∈ all.head?, t.source = .uninitialized
  state : m.state = (all.getLast?.map Transition.target).getD .uninitialized
  handsOver : HandsOver all
  live : ∀ id, (∃ reused, m.state = .active id reused) ↔ m.session.map F.id = some id
  settled : ∀ previous current, m.state ≠ .replaced previous current

theorem new_truthful (state : F.State) : (Manager.new F state).Truthful [] := by
  refine ⟨rfl, rfl, .nil, ?_, rfl, ?_, ?_, ?_⟩
  · intro t ht
    cases ht
  · intro before t later _ _ hsplit
    simp at hsplit
  · intro id
    constructor
    · rintro ⟨_, hactive⟩
      cases hactive
    · intro hlive
      cases hlive
  · intro _ _ hreplaced
    cases hreplaced

namespace Outcome

variable {m m' : Manager F} {ts : List Transition}

theorem source_eq (h : Outcome m m' ts) : ∀ t ∈ ts.head?, t.source = m.state := by
  intro t ht
  cases h <;> cases ht <;> rfl

theorem getLast?_target (h : Outcome m m' ts) :
    ts.getLast?.map Transition.target = some m'.state := by
  cases h with
  | failed hsession hstate => rw [hstate]; rfl
  | live hsession hstate => rw [hstate]; rfl
  | replaced hbefore hother hsession hstate => rw [hstate]; rfl

theorem isChain (h : Outcome m m' ts) : ts.IsChain fun t u => t.target = u.source := by
  cases h with
  | failed => exact .singleton _
  | live => exact .singleton _
  | replaced => exact .cons_cons rfl (.singleton _)

theorem live_iff (h : Outcome m m' ts) (id : SessionId) :
    (∃ reused, m'.state = .active id reused) ↔ m'.session.map F.id = some id := by
  cases h with
  | failed hsession hstate => simp [hsession, hstate]
  | live hsession hstate => simp [hsession, hstate]
  | replaced hbefore hother hsession hstate => simp [hsession, hstate]

theorem state_ne_replaced (h : Outcome m m' ts) (previous current : SessionId) :
    m'.state ≠ .replaced previous current := by
  intro hreplaced
  cases h with
  | failed hsession hstate => cases hstate.symm.trans hreplaced
  | live hsession hstate => cases hstate.symm.trans hreplaced
  | replaced hbefore hother hsession hstate => cases hstate.symm.trans hreplaced

theorem handsOver (h : Outcome m m' ts) {all : List Transition} (hm : m.Truthful all) :
    HandsOver ts := by
  cases h with
  | failed => exact handsOver_singleton fun _ _ h => by cases h
  | live => exact handsOver_singleton fun _ _ h => by cases h
  | @replaced old session _ _ hbefore hother =>
      have hlive : m.session.map F.id = some (F.id old) := congrArg (Option.map F.id) hbefore
      obtain ⟨reused, hactive⟩ := (hm.live (F.id old)).2 hlive
      exact handsOver_pair hactive hother rfl rfl

end Outcome

/-- One round, whether it fails or not. -/
theorem Truthful.round
    (hkeeps : ∀ state phase session, F.id (F.compile state phase session).2.1 = F.id session)
    {m : Manager F} {all : List Transition} (hm : m.Truthful all) (r : Round) :
    (m.round r).Truthful (all ++ m.moves r) := by
  obtain ⟨ts, houtcome, hhistory⟩ := m.prepare_outcome r.config r.documents r.disk
  obtain ⟨hstate, hrecord⟩ :=
    foldl_compile_record r.phases (m.prepare r.config r.documents r.disk).manager
  rw [moves_eq houtcome hhistory]
  refine ⟨?_, ?_, ?_, ?_, ?_, hm.handsOver.append (houtcome.handsOver hm), ?_, ?_⟩
  · rw [Manager.round, hrecord, hhistory m.history]
    exact (History.foldl_record_limit ts m.history).trans hm.limit
  · rw [Manager.round, hrecord]
    exact hhistory m.history ▸ hm.kept.foldl_record ts
  · apply List.isChain_append.2
    refine ⟨hm.linked, houtcome.isChain, ?_⟩
    intro t ht u hu
    rw [houtcome.source_eq u hu, hm.state, Option.mem_def.1 ht]
    rfl
  · intro t ht
    cases hall : all with
    | nil =>
        rw [hall, List.nil_append] at ht
        rw [houtcome.source_eq t ht, hm.state, hall]
        rfl
    | cons first rest =>
        rw [hall] at ht
        exact hm.first t (hall ▸ ht)
  · obtain ⟨last, hlast, htarget⟩ := Option.map_eq_some_iff.1 houtcome.getLast?_target
    rw [Manager.round, hstate, List.getLast?_append, hlast, ← htarget]
    rfl
  · intro id
    rw [Manager.round, hstate, foldl_compile_id hkeeps]
    exact houtcome.live_iff id
  · intro previous current
    rw [Manager.round, hstate]
    exact houtcome.state_ne_replaced previous current

theorem Truthful.after
    (hkeeps : ∀ state phase session, F.id (F.compile state phase session).2.1 = F.id session)
    {m : Manager F} {all : List Transition} (hm : m.Truthful all) (rounds : List Round) :
    (m.after rounds).Truthful (all ++ m.journal rounds) := by
  induction rounds generalizing m all with
  | nil => rwa [journal, List.append_nil]
  | cons r rest ih =>
      rw [journal, ← List.append_assoc]
      exact ih (hm.round hkeeps r)

/-- For every frontend whose sessions keep their identity, after any rounds, whatever failed in
them: the state is active with an identity exactly if the session of that identity is live, and
never replaced; the history has the last fifty of all transitions made; these start before the
first session, lead from one to the next and end in the state; and a session that is replaced was
the live one and makes way for another at once. -/
theorem lifecycle_recorded (F : Frontend)
    (hkeeps : ∀ state phase session, F.id (F.compile state phase session).2.1 = F.id session)
    (state : F.State) (rounds : List Round) :
    let m := (Manager.new F state).after rounds
    let all := (Manager.new F state).journal rounds
    (∀ id, (∃ reused, m.state = .active id reused) ↔
        ∃ session, m.session = some session ∧ F.id session = id) ∧
      (∀ previous current, m.state ≠ .replaced previous current) ∧
      m.history.transitions = all.drop (all.length - 50) ∧
      (all.IsChain fun t u => t.target = u.source) ∧
      (∀ t ∈ all.head?, t.source = .uninitialized) ∧
      (∀ t ∈ all.getLast?, t.target = m.state) ∧
      HandsOver all := by
  intro m all
  have hm : m.Truthful all := (new_truthful state).after hkeeps rounds
  refine ⟨?_, hm.settled, ?_, hm.linked, hm.first, ?_, hm.handsOver⟩
  · intro id
    rw [hm.live id, Option.map_eq_some_iff]
  · rw [hm.kept, hm.limit]
    rfl
  · intro t ht
    rw [hm.state, Option.mem_def.1 ht]
    rfl

namespace LifecycleWitness

/-- The frontend makes a new session each time. -/
def script : Scripted.State := { keep := false, outputBase := some ⟨[0x2F]⟩ }

def plain : Round := ⟨⟨none, []⟩, .empty, .bare, [.boundary]⟩

/-- The output directory of the session is a plain file by now, so that it cannot be deleted. -/
def jammed : Round :=
  ⟨⟨none, []⟩, .empty, FileTree.bare.put [Text.encodeUtf8 "session-27"] (.file [] false), []⟩

/-- The session is replaced until the history is full, then lost, then made anew. -/
def rounds : List Round := List.replicate 27 plain ++ [jammed, plain]

theorem lifecycle_recorded_full :
    ((Manager.new Scripted.frontend script).journal rounds).length = 55 ∧
      ((Manager.new Scripted.frontend script).after rounds).state = .active ⟨28⟩ false ∧
      ((Manager.new Scripted.frontend script).after rounds).history.transitions =
        ((Manager.new Scripted.frontend script).journal rounds).drop 5 ∧
      HandsOver ((Manager.new Scripted.frontend script).journal rounds) := by
  have hlength : ((Manager.new Scripted.frontend script).journal rounds).length = 55 := by
    decide +kernel
  obtain ⟨-, -, hhistory, -, -, -, hhandsOver⟩ :=
    lifecycle_recorded Scripted.frontend (fun _ _ _ => rfl) script rounds
  rw [hlength] at hhistory
  exact ⟨hlength, by decide +kernel, hhistory, hhandsOver⟩

end LifecycleWitness

end Manager

end PipelineServer
