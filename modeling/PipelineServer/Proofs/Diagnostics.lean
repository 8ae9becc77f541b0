import PipelineServer.Diagnostics
import PipelineServer.Proofs.SortedMap

/-!
What is published, file by file.

A snapshot groups the errors of a compilation by their files. What is sent for a file after a
compilation is its new list of diagnostics, or one empty list if it had some before and has none
now, or nothing.
-/

namespace PipelineServer

/-- The file in which a message shows up, if it does. -/
def Message.place? (uriOf : Path → Option Uri) : Message → Option Uri
  | .syntaxError source _ _ _ => uriOf source
  | .warning _ _ | .exception _ => none

/-- The diagnostic by which a message shows up in a file, if it does. -/
def Message.diagnosticIn? (uriOf : Path → Option Uri) (uri : Uri) : Message → Option Diagnostic
  | .syntaxError source span fatal text =>
      if uriOf source = some uri then some (.ofError span fatal text) else none
  | .warning _ _ | .exception _ => none

/-- The diagnostics of a file, in the order of the messages. -/
def diagnosticsIn (uriOf : Path → Option Uri) (uri : Uri) (messages : List Message) :
    List Diagnostic :=
  messages.filterMap (Message.diagnosticIn? uriOf uri)

/-- A diagnostic of a file is that of an error in it: it has the text of the error, it is an error
or a warning by whether the error is fatal, and it reaches from the first to the last place of the
error, with lines and columns counted from zero. -/
theorem mem_diagnosticsIn_iff {uriOf : Path → Option Uri} {uri : Uri} {messages : List Message}
    {d : Diagnostic} :
    d ∈ diagnosticsIn uriOf uri messages ↔
      ∃ source span fatal, .syntaxError source span fatal d.text ∈ messages ∧
        uriOf source = some uri ∧ d.severity = (if fatal then .error else .warning) ∧
        d.range = ⟨⟨span.start.line - 1, span.start.column - 1⟩,
          ⟨span.stop.line - 1, span.stop.column - 1⟩⟩ := by
  rw [diagnosticsIn, List.mem_filterMap]
  constructor
  · rintro ⟨m, hm, hd⟩
    cases m with
    | syntaxError source span fatal text =>
        obtain ⟨huri, hd⟩ := Option.ite_none_right_eq_some.1 hd
        cases hd
        exact ⟨source, span, fatal, hm, huri, rfl, rfl⟩
    | warning source text => cases hd
    | exception text => cases hd
  · rintro ⟨source, span, fatal, hm, huri, hseverity, hrange⟩
    refine ⟨_, hm, Option.ite_none_right_eq_some.2 ⟨huri, ?_⟩⟩
    cases d
    cases hseverity
    cases hrange
    rfl

/-- Grouping by file: the entry of a file is the list of its diagnostics, and there is none for a
file without diagnostics. -/
def grouped (uriOf : Path → Option Uri) (messages : List Message) (uri : Uri) :
    Option (List Diagnostic) :=
  match diagnosticsIn uriOf uri messages with
  | [] => none
  | ds => some ds

namespace Snapshot

/-- No file is kept with an empty list. -/
def Tight (s : Snapshot) : Prop := ∀ uri, s.get? uri ≠ some []

theorem push_tight {s : Snapshot} (hs : s.Tight) (uri : Uri) (d : Diagnostic) :
    (s.push uri d).Tight := by
  intro other
  by_cases h : other = uri
  · subst h
    simp [push, SortedMap.get?_insert_self]
  · rw [push, SortedMap.get?_insert_of_ne _ _ h]
    exact hs other

theorem addMessage_tight (uriOf : Path → Option Uri) {s : Snapshot} (hs : s.Tight)
    (m : Message) : (s.addMessage uriOf m).Tight := by
  cases m with
  | syntaxError source span fatal text =>
      simp only [addMessage]
      split
      · exact push_tight hs _ _
      · exact hs
  | warning source text => exact hs
  | exception text => exact hs

/-- A message adds its diagnostic, if any, behind those the file has. -/
theorem getD_addMessage (uriOf : Path → Option Uri) (s : Snapshot) (m : Message) (uri : Uri) :
    ((s.addMessage uriOf m).get? uri).getD [] =
      (s.get? uri).getD [] ++ (m.diagnosticIn? uriOf uri).toList := by
  cases m with
  | syntaxError source span fatal text =>
      cases huri : uriOf source with
      | none => simp [addMessage, Message.diagnosticIn?, huri]
      | some place =>
          by_cases h : uri = place
          · subst h
            simp [addMessage, Message.diagnosticIn?, huri, push, SortedMap.get?_insert_self]
          · have hne : place ≠ uri := fun heq => h heq.symm
            simp [addMessage, Message.diagnosticIn?, huri, push, hne,
              SortedMap.get?_insert_of_ne _ _ h]
  | warning source text => simp [addMessage, Message.diagnosticIn?]
  | exception text => simp [addMessage, Message.diagnosticIn?]

theorem ofMessages_tight (uriOf : Path → Option Uri) (messages : List Message) :
    (ofMessages uriOf messages).Tight :=
  List.foldlRecOn messages _ (motive := Tight) (fun _ h => nomatch h)
    fun _ hs m _ => addMessage_tight uriOf hs m

theorem getD_foldl_addMessage (uriOf : Path → Option Uri) (messages : List Message) (s : Snapshot)
    (uri : Uri) :
    ((messages.foldl (addMessage uriOf) s).get? uri).getD [] =
      (s.get? uri).getD [] ++ diagnosticsIn uriOf uri messages := by
  induction messages generalizing s with
  | nil => simp [diagnosticsIn]
  | cons m rest ih =>
      rw [List.foldl_cons, ih, getD_addMessage, List.append_assoc]
      cases hm : m.diagnosticIn? uriOf uri <;> simp [diagnosticsIn, hm]

/-- The snapshot of some messages is their grouping by file. -/
theorem get?_ofMessages (uriOf : Path → Option Uri) (messages : List Message) (uri : Uri) :
    (ofMessages uriOf messages).get? uri = grouped uriOf messages uri := by
  have hgetD : ((ofMessages uriOf messages).get? uri).getD [] =
      diagnosticsIn uriOf uri messages :=
    getD_foldl_addMessage uriOf messages ∅ uri
  have htight := ofMessages_tight uriOf messages uri
  unfold grouped
  cases hget : (ofMessages uriOf messages).get? uri with
  | none =>
      rw [hget, Option.getD_none] at hgetD
      rw [← hgetD]
  | some ds =>
      rw [hget, Option.getD_some] at hgetD
      rw [hget] at htight
      rw [← hgetD]
      cases ds with
      | nil => exact absurd rfl htight
      | cons d rest => rfl

end Snapshot

theorem Uri.compare_eq_lt_iff {a b : Uri} : compare a b = .lt ↔ a.text < b.text :=
  compareOfLessAndEq_eq_lt

namespace PublishSet

/-- What is sent for one file, in order. -/
def sentFor (set : PublishSet) (uri : Uri) : List (List Diagnostic) :=
  set.filterMap fun e => if e.1 = uri then some e.2 else none

@[simp] theorem sentFor_nil (uri : Uri) : sentFor [] uri = [] := rfl

@[simp] theorem sentFor_append (a b : PublishSet) (uri : Uri) :
    sentFor (a ++ b) uri = sentFor a uri ++ sentFor b uri :=
  List.filterMap_append

/-- What an editor shows for a file: what was sent last, and nothing before that. -/
def shownFor (set : PublishSet) (uri : Uri) : List Diagnostic :=
  ((set.sentFor uri).getLast?).getD []

theorem shownFor_append (a b : PublishSet) (uri : Uri) :
    shownFor (a ++ b) uri = ((b.sentFor uri).getLast?).getD (a.shownFor uri) := by
  unfold shownFor
  rw [sentFor_append, List.getLast?_append]
  cases (sentFor b uri).getLast? <;> rfl

end PublishSet

namespace Snapshot

theorem get?_foldl_insertIfNew (keys : List Uri) (current : Snapshot) (uri : Uri) :
    (keys.foldl (fun s key => SortedMap.insertIfNew s key []) current).get? uri =
      if uri ∈ keys then some ((current.get? uri).getD []) else current.get? uri := by
  induction keys generalizing current with
  | nil => rfl
  | cons key rest ih =>
      rw [List.foldl_cons, ih]
      by_cases h : uri = key
      · subst h
        simp
      · simp [h, SortedMap.get?_insertIfNew_of_ne current [] h]

/-- What is sent for a file: its diagnostics, or an empty list if it had some and has none now. -/
theorem sentFor_publishSet (previous current : Snapshot) (uri : Uri) :
    (publishSet previous current).sentFor uri =
      match current.get? uri with
      | some ds => [ds]
      | none => if uri ∈ previous then [[]] else [] := by
  unfold publishSet PublishSet.sentFor
  rw [SortedMap.filterMap_entries, get?_foldl_insertIfNew]
  cases current.get? uri with
  | some ds => simp
  | none => by_cases h : uri ∈ previous <;> simp [h, SortedMap.mem_keys]

/-- Sending what is to be published makes an editor show the current diagnostics, if it showed the
previous ones. -/
theorem shownFor_publishSet {before : PublishSet} {previous : Snapshot} {uri : Uri}
    (hbefore : before.shownFor uri = (previous.get? uri).getD []) (current : Snapshot) :
    PublishSet.shownFor (before ++ publishSet previous current) uri =
      (current.get? uri).getD [] := by
  rw [PublishSet.shownFor_append, sentFor_publishSet]
  cases current.get? uri with
  | some ds => rfl
  | none =>
      by_cases h : uri ∈ previous
      · simp [h]
      · rw [SortedMap.not_mem_iff] at h
        simp [h, hbefore, SortedMap.not_mem_iff.2 h]

/-- A diagnostic is added to the lists of a snapshot, and all others stay. -/
theorem flatten_push_perm (s : Snapshot) (uri : Uri) (d : Diagnostic) :
    (s.push uri d).values.flatten.Perm (d :: s.values.flatten) := by
  refine (SortedMap.values_insert_perm s uri _).flatten.trans ?_
  rw [List.flatten_cons, List.append_assoc]
  exact List.perm_middle.trans ((SortedMap.flatten_values_perm s uri).symm.cons d)

/-- A message that is shown in a file makes the lists of a snapshot longer by one. -/
theorem length_addMessage (uriOf : Path → Option Uri) (s : Snapshot) (m : Message) :
    (s.addMessage uriOf m).values.flatten.length =
      s.values.flatten.length + [m].countP fun m => (m.place? uriOf).isSome := by
  cases m with
  | syntaxError source span fatal text =>
      cases huri : uriOf source with
      | none => simp [addMessage, Message.place?, huri]
      | some uri =>
          simp only [addMessage, huri]
          rw [(flatten_push_perm s uri _).length_eq]
          simp [Message.place?, huri]
  | warning source text => rfl
  | exception text => rfl

theorem length_foldl_addMessage (uriOf : Path → Option Uri) (messages : List Message)
    (s : Snapshot) :
    (messages.foldl (addMessage uriOf) s).values.flatten.length =
      s.values.flatten.length + messages.countP fun m => (m.place? uriOf).isSome := by
  induction messages generalizing s with
  | nil => rfl
  | cons m rest ih =>
      rw [List.foldl_cons, ih, length_addMessage, Nat.add_assoc, ← List.countP_append,
        List.singleton_append]

theorem mem_publishSet_iff {previous current : Snapshot} {uri : Uri} {ds : List Diagnostic} :
    (uri, ds) ∈ publishSet previous current ↔
      (uri ∈ current ∨ uri ∈ previous) ∧ ds = (current.get? uri).getD [] := by
  rw [publishSet, ← SortedMap.get?_eq_some_iff, get?_foldl_insertIfNew]
  cases h : current.get? uri with
  | some list =>
      have hcurrent : uri ∈ current := SortedMap.mem_iff_exists.2 ⟨list, h⟩
      simp [hcurrent, eq_comm]
  | none =>
      have hcurrent : uri ∉ current := SortedMap.not_mem_iff.2 h
      by_cases hprevious : uri ∈ previous <;>
        simp [hcurrent, hprevious, SortedMap.mem_keys, eq_comm]

/-- The snapshot of some messages has for every file the diagnostics of the errors in it, in the
order of the messages, and no file without any; its lists together are as long as there are errors
with a file. What is published has for every file of the new and of the previous snapshot its new
list, which is empty if the file has none, once each and in the order of the uris. -/
theorem publication_groups_and_clears (uriOf : Path → Option Uri) (messages : List Message)
    (previous : Snapshot) :
    (∀ uri, ((ofMessages uriOf messages).get? uri).getD [] = diagnosticsIn uriOf uri messages ∧
      (ofMessages uriOf messages).get? uri ≠ some []) ∧
    (ofMessages uriOf messages).values.flatten.length =
      messages.countP (fun m => (m.place? uriOf).isSome) ∧
    (publishSet previous (ofMessages uriOf messages)).Pairwise
      (fun a b => a.1.text < b.1.text) ∧
    ∀ uri ds, (uri, ds) ∈ publishSet previous (ofMessages uriOf messages) ↔
      (uri ∈ ofMessages uriOf messages ∨ uri ∈ previous) ∧
        ds = ((ofMessages uriOf messages).get? uri).getD [] := by
  refine ⟨fun uri => ⟨?_, ofMessages_tight uriOf messages uri⟩, ?_, ?_, ?_⟩
  · exact getD_foldl_addMessage uriOf messages ∅ uri
  · rw [ofMessages, length_foldl_addMessage]
    exact Nat.zero_add _
  · exact (SortedMap.ordered _).imp Uri.compare_eq_lt_iff.1
  · exact fun uri ds => mem_publishSet_iff

namespace DiagnosticsWitness

/-- A fatal error and one that is not, in two files, an error without a file, and a warning. -/
def messages : List Message :=
  [.syntaxError (.ofText "/b.nf") ⟨⟨2, 5⟩, ⟨2, 6⟩⟩ false "unused",
    .syntaxError (.ofText "b.nf") ⟨⟨1, 1⟩, ⟨1, 2⟩⟩ true "elsewhere",
    .warning (some (.ofText "/b.nf")) "slow",
    .syntaxError (.ofText "/a.nf") ⟨⟨1, 8⟩, ⟨3, 2⟩⟩ true "unclosed"]

/-- There was an error in one more file, which is gone. -/
def previous : Snapshot := ofMessages Uri.ofPath?
  [.syntaxError (.ofText "/b.nf") ⟨⟨2, 5⟩, ⟨2, 6⟩⟩ true "unused",
    .syntaxError (.ofText "/c.nf") ⟨⟨1, 1⟩, ⟨1, 2⟩⟩ true "unclosed"]

theorem publication_groups_and_clears_gone :
    diagnosticsIn Uri.ofPath? ⟨"file:///b.nf"⟩ messages =
        [⟨⟨⟨1, 4⟩, ⟨1, 5⟩⟩, .warning, "unused"⟩] ∧
      (∃ ds, (⟨"file:///a.nf"⟩, ds) ∈ publishSet previous (ofMessages Uri.ofPath? messages) ∧
        ⟨⟨⟨0, 7⟩, ⟨2, 1⟩⟩, .error, "unclosed"⟩ ∈ ds) ∧
      publishSet previous (ofMessages Uri.ofPath? messages) =
        [(⟨"file:///a.nf"⟩, [⟨⟨⟨0, 7⟩, ⟨2, 1⟩⟩, .error, "unclosed"⟩]),
          (⟨"file:///b.nf"⟩, [⟨⟨⟨1, 4⟩, ⟨1, 5⟩⟩, .warning, "unused"⟩]),
          (⟨"file:///c.nf"⟩, [])] := by
  obtain ⟨hgroups, -, -, hpublished⟩ :=
    publication_groups_and_clears Uri.ofPath? messages previous
  refine ⟨by decide +kernel, ⟨_, (hpublished _ _).2 ⟨.inl (by decide +kernel), rfl⟩, ?_⟩,
    by decide +kernel⟩
  rw [(hgroups _).1]
  exact mem_diagnosticsIn_iff.2
    ⟨.ofText "/a.nf", ⟨⟨1, 8⟩, ⟨3, 2⟩⟩, true, by decide +kernel, by decide +kernel, rfl, rfl⟩

end DiagnosticsWitness

end Snapshot

end PipelineServer
