import PipelineServer.Compiler.Compile
import PipelineServer.Proofs.Compiler.Scanning

/-!
Compiling a session some of whose sources cannot be read.

What a compilation finds is a matter of the sources that could be read. The messages are those about
their texts (`Session.compile_messages`), and it makes no difference whether the others are left out
before or afterwards (`Session.compile_readable`). These show only in how the compilation ends
(`Session.compile_unexpected_iff`), and its messages are passed on nevertheless.
-/

namespace PipelineServer.Scanning

/-- A source that could be read. -/
structure Reading where
  uri : Uri
  path : Path
  text : String
deriving DecidableEq

namespace SourceUnit

/-- What was read of a source, if it could be read. -/
def reading? (uri : Uri) (u : SourceUnit) : Option Reading :=
  u.text.toOption.map fun text => ⟨uri, u.path, text⟩

theorem reading?_eq_some_iff {uri : Uri} {u : SourceUnit} {r : Reading} :
    u.reading? uri = some r ↔ r.uri = uri ∧ r.path = u.path ∧ u.text = .ok r.text := by
  obtain ⟨place, path, text⟩ := r
  cases htext : u.text with
  | ok content => simp [reading?, htext, Except.toOption, eq_comm]
  | error e => simp [reading?, htext, Except.toOption]

theorem unreadable?_eq_none_iff {u : SourceUnit} :
    u.unreadable? = none ↔ ∀ e, u.text ≠ .error e := by
  cases htext : u.text <;> simp [unreadable?, htext]

theorem declared_unreadable? (phase : Phase) (u : SourceUnit) :
    (u.declared phase).unreadable? = u.unreadable? := by
  simp only [unreadable?, declared_text, declared_path]

end SourceUnit

namespace Session

/-- The sources that could be read, in the order of the uris. -/
def readings (s : Session) : List Reading :=
  s.sources.entries.filterMap fun e => e.2.reading? e.1

/-- The session without the sources that could not be read. -/
def readable (s : Session) : Session :=
  { s with sources := s.sources.filter fun _ u => u.text.isOk }

/-- Some source could not be read. -/
def Impaired (s : Session) : Prop :=
  ∃ uri unit e, s.sources.get? uri = some unit ∧ unit.text = .error e

theorem mem_readings_iff {s : Session} {r : Reading} :
    r ∈ s.readings ↔
      ∃ unit, s.sources.get? r.uri = some unit ∧ r.path = unit.path ∧ unit.text = .ok r.text := by
  rw [readings, List.mem_filterMap]
  constructor
  · rintro ⟨⟨uri, unit⟩, hentry, hreading⟩
    obtain ⟨rfl, hread⟩ := SourceUnit.reading?_eq_some_iff.1 hreading
    exact ⟨unit, SortedMap.get?_eq_some_iff.2 hentry, hread⟩
  · rintro ⟨unit, hunit, hread⟩
    exact ⟨(r.uri, unit), SortedMap.get?_eq_some_iff.1 hunit,
      SourceUnit.reading?_eq_some_iff.2 ⟨rfl, hread⟩⟩

theorem text?_eq_some_iff {s : Session} {uri : Uri} {text : String} :
    s.text? uri = some text ↔ ∃ path, ⟨uri, path, text⟩ ∈ s.readings := by
  simp only [text?, mem_readings_iff, Option.bind_eq_some_iff]
  constructor
  · rintro ⟨unit, hunit, htext⟩
    cases hread : unit.text with
    | ok content =>
        rw [hread, Except.toOption, Option.some.injEq] at htext
        exact ⟨unit.path, unit, hunit, rfl, htext ▸ hread⟩
    | error e =>
        rw [hread] at htext
        cases htext
  · rintro ⟨path, unit, hunit, -, hread⟩
    exact ⟨unit, hunit, by rw [hread, Except.toOption]⟩

/-- A session is impaired if and only if its compilation lists a source as unreadable. -/
theorem impaired_iff {s : Session} :
    s.Impaired ↔ s.sources.values.filterMap SourceUnit.unreadable? ≠ [] := by
  rw [ne_eq, List.filterMap_eq_nil_iff]
  simp only [SourceUnit.unreadable?_eq_none_iff, SortedMap.values, List.mem_map]
  constructor
  · rintro ⟨uri, unit, e, hunit, herror⟩ hall
    exact hall unit ⟨(uri, unit), SortedMap.get?_eq_some_iff.1 hunit, rfl⟩ e herror
  · intro hsome
    apply Classical.byContradiction
    intro hnone
    apply hsome
    rintro unit ⟨⟨uri, _⟩, hentry, rfl⟩ e herror
    exact hnone ⟨uri, _, e, SortedMap.get?_eq_some_iff.2 hentry, herror⟩

/-- The messages of a compilation are those about the readable sources. -/
theorem compile_messages (s : Session) :
    (s.compile .boundary).1.messages =
      s.readings.flatMap fun r => Source.check r.path r.text := by
  have hmessages : (s.compile .boundary).1.messages =
      s.sources.entries.flatMap fun e => e.2.check .boundary := by
    simp [compile, SortedMap.values, List.flatMap_map]
  rw [hmessages, readings]
  induction s.sources.entries with
  | nil => rfl
  | cons e rest ih =>
      rw [List.flatMap_cons, ih]
      cases htext : e.2.text with
      | ok text =>
          simp [SourceUnit.check_of_text htext, SourceUnit.reading?, htext, Except.toOption]
      | error reason =>
          simp [SourceUnit.check_of_error htext, SourceUnit.reading?, htext, Except.toOption]

/-- Every message of a compilation is an error at a place. -/
theorem isSyntaxError_of_mem_compile {s : Session} {m : Message}
    (h : m ∈ (s.compile .boundary).1.messages) : m.isSyntaxError = true := by
  rw [compile_messages, List.mem_flatMap] at h
  obtain ⟨r, -, hm⟩ := h
  obtain ⟨f, -, rfl⟩ := List.mem_map.1 hm
  rfl

@[simp] theorem readings_readable (s : Session) : s.readable.readings = s.readings := by
  rw [readings, readable, SortedMap.filter, List.filterMap_filter]
  apply congrArg (fun f => s.sources.entries.filterMap f)
  funext e
  cases htext : e.2.text <;>
    simp [SourceUnit.reading?, htext, Except.isOk, Except.toBool, Except.toOption]

/-- Leaving out the sources that could not be read before compiling or afterwards is the same. -/
theorem compile_readable (s : Session) :
    (s.readable.compile .boundary).1 = (s.compile .boundary).1.readable := by
  have hsources : (s.readable.compile .boundary).1.sources =
      (s.compile .boundary).1.readable.sources := by
    apply SortedMap.ext_get?
    intro uri
    rw [get?_compile, readable, readable, SortedMap.get?_filter, SortedMap.get?_filter,
      get?_compile]
    cases s.sources.get? uri with
    | none => rfl
    | some unit => by_cases hread : unit.text.isOk = true <;> simp [Option.filter, hread]
  have hmessages : (s.readable.compile .boundary).1.messages =
      (s.compile .boundary).1.messages := by
    rw [compile_messages, compile_messages, readings_readable]
  calc (s.readable.compile .boundary).1
      = { s with
          sources := (s.readable.compile .boundary).1.sources
          messages := (s.readable.compile .boundary).1.messages } := rfl
    _ = (s.compile .boundary).1.readable := by
        rw [hsources, hmessages]
        rfl

/-- Compiling again changes nothing, and ends in the same way. -/
theorem compile_compile (phase : Phase) (s : Session) :
    (s.compile phase).1.compile phase = s.compile phase := by
  have hvalues : (s.compile phase).1.sources.values =
      s.sources.values.map (SourceUnit.declared phase) := by
    simp [compile, SortedMap.values, SortedMap.mapValues]
  have hchecks : (s.compile phase).1.sources.values.flatMap (SourceUnit.check phase) =
      s.sources.values.flatMap (SourceUnit.check phase) := by
    simp [hvalues, List.flatMap_map]
  have hunreadable : (s.compile phase).1.sources.values.filterMap SourceUnit.unreadable? =
      s.sources.values.filterMap SourceUnit.unreadable? := by
    rw [hvalues, List.filterMap_map]
    apply congrArg (fun f => s.sources.values.filterMap f)
    funext u
    exact u.declared_unreadable? phase
  have hsources : (s.compile phase).1.sources.mapValues (fun _ u => u.declared phase) =
      (s.compile phase).1.sources := by
    apply SortedMap.ext_get?
    intro uri
    rw [SortedMap.get?_mapValues, get?_compile, Option.map_map]
    apply congrArg (fun f => (s.sources.get? uri).map f)
    funext u
    exact u.declared_declared phase
  rw [compile, hchecks, hunreadable, hsources]
  rfl

section Outcome

variable {s : Session}

theorem compile_of_impaired (h : s.Impaired) :
    ∃ reason, (s.compile .boundary).2 = .failed (.unexpected reason) := by
  have hunreadable : (s.sources.values.filterMap SourceUnit.unreadable?).isEmpty = false :=
    List.isEmpty_eq_false_iff.2 (impaired_iff.1 h)
  simp [compile, hunreadable]

/-- If every source could be read, the compilation ends as its messages say. -/
theorem compile_of_not_impaired (h : ¬s.Impaired) :
    (s.compile .boundary).2 =
      if (s.compile .boundary).1.messages.length = 0 then .finished
      else .failed (.manyErrors (s.compile .boundary).1.messages.length) := by
  have hunreadable : s.sources.values.filterMap SourceUnit.unreadable? = [] :=
    Classical.not_not.1 fun hne => h (impaired_iff.2 hne)
  -- only errors at a place are counted, and the syntax check reports nothing else
  have herrors : (s.compile .boundary).1.messages.filter Message.isSyntaxError =
      (s.compile .boundary).1.messages :=
    List.filter_eq_self.2 fun _ => isSyntaxError_of_mem_compile
  have houtcome : (s.compile .boundary).2 =
      if ((s.compile .boundary).1.messages.filter Message.isSyntaxError).length = 0 then .finished
      else .failed (.manyErrors
        ((s.compile .boundary).1.messages.filter Message.isSyntaxError).length) := by
    simp only [compile, hunreadable]
    rfl
  rw [houtcome, herrors]

theorem compile_unexpected_iff :
    (∃ reason, (s.compile .boundary).2 = .failed (.unexpected reason)) ↔ s.Impaired := by
  refine ⟨?_, compile_of_impaired⟩
  rintro ⟨reason, houtcome⟩
  apply Classical.byContradiction
  intro hread
  rw [compile_of_not_impaired hread] at houtcome
  split at houtcome <;> cases houtcome

theorem compile_manyErrors_iff {n : Nat} :
    (s.compile .boundary).2 = .failed (.manyErrors n) ↔
      ¬s.Impaired ∧ (s.compile .boundary).1.messages.length = n ∧ 0 < n := by
  by_cases himpaired : s.Impaired
  · obtain ⟨reason, houtcome⟩ := compile_of_impaired himpaired
    simp [houtcome, himpaired]
  · rw [compile_of_not_impaired himpaired]
    by_cases hnone : (s.compile .boundary).1.messages.length = 0
    · rw [if_pos hnone, hnone]
      constructor
      · intro houtcome
        cases houtcome
      · rintro ⟨-, rfl, hpos⟩
        cases hpos
    · rw [if_neg hnone]
      constructor
      · intro houtcome
        cases houtcome
        exact ⟨himpaired, rfl, Nat.pos_of_ne_zero hnone⟩
      · rintro ⟨-, rfl, -⟩
        rfl

theorem compile_finished_iff :
    (s.compile .boundary).2 = .finished ↔
      ¬s.Impaired ∧ (s.compile .boundary).1.messages = [] := by
  by_cases himpaired : s.Impaired
  · obtain ⟨reason, houtcome⟩ := compile_of_impaired himpaired
    simp [houtcome, himpaired]
  · rw [compile_of_not_impaired himpaired]
    simp [himpaired]

end Outcome

theorem declarations_compile (phase : Phase) (s : Session) (uri : Uri) :
    (s.compile phase).1.forest.declarations uri =
      (s.sources.get? uri).map fun u => (u.declared phase).declarations := by
  simp only [forest, get?_compile, Option.map_map, Function.comp_def]

/-- The declarations of a source that could be read are those of its text. -/
theorem declarations_of_text {s : Session} {uri : Uri} {unit : SourceUnit} {text : String}
    (hunit : s.sources.get? uri = some unit) (htext : unit.text = .ok text) :
    (s.compile .boundary).1.forest.declarations uri = some (Source.declarations text.toList) := by
  rw [declarations_compile, hunit, Option.map_some, SourceUnit.declared, htext]
  rfl

/-- A source that could not be read has no declarations, whatever it had before. -/
theorem declarations_of_error {s : Session} {uri : Uri} {unit : SourceUnit} {e : DiskError}
    (hunit : s.sources.get? uri = some unit) (herror : unit.text = .error e) :
    (s.compile .boundary).1.forest.declarations uri = some [] := by
  rw [declarations_compile, hunit, Option.map_some, SourceUnit.declared, herror]

theorem text?_compile (phase : Phase) (s : Session) (uri : Uri) :
    (s.compile phase).1.text? uri = s.text? uri := by
  rw [text?, text?, get?_compile]
  cases s.sources.get? uri with
  | none => rfl
  | some unit => simp

/-- Sessions with the same readable sources declare the same, whatever else they hold. -/
theorem declarations_of_readings_eq {s t : Session} (h : t.readings = s.readings) (uri : Uri) :
    ((t.compile .boundary).1.forest.declarations uri).getD [] =
      ((s.compile .boundary).1.forest.declarations uri).getD [] := by
  have htext : t.text? uri = s.text? uri := by
    apply Option.ext
    intro text
    rw [text?_eq_some_iff, text?_eq_some_iff, h]
  rw [t.compile_settled.declarations_eq, s.compile_settled.declarations_eq, text?_compile,
    text?_compile, htext]

/-- The messages of a session that could be read throughout are handed back as such. -/
theorem judge_of_not_impaired {s : Session} (h : ¬s.Impaired) (messages : List Message) :
    judge (s.compile .boundary).2 messages = .ok messages := by
  rw [compile_of_not_impaired h]
  split <;> rfl

end Session

end PipelineServer.Scanning
