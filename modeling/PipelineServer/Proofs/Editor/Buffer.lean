import PipelineServer.Editor.Document
import PipelineServer.Proofs.Text.Buffer

/-!
The document store keeps up with the buffer of an editor.

The editor splices its edits into code units, the store into characters. As long as the editor names
places that exist and do not cut a character in two, both hold the same text after any number of
edits.
-/

namespace PipelineServer

open Text (encodeUtf16)

namespace Buffer

/-- An edit that can be made: both ends of its range are there, in this order. -/
def Fits (b : Buffer) (edit : Edit) : Prop :=
  ∀ r ∈ edit.range, b.Has r.start ∧ b.Has r.stop ∧ r.start ≤ r.stop

instance (b : Buffer) (edit : Edit) : Decidable (b.Fits edit) :=
  inferInstanceAs (Decidable (∀ r ∈ edit.range, b.Has r.start ∧ b.Has r.stop ∧ r.start ≤ r.stop))

/-- The buffer after an edit. -/
def edited (b : Buffer) (edit : Edit) : Buffer :=
  match edit.range with
  | none => encodeUtf16 edit.text.toList
  | some r => b.take (b.index r.start) ++ encodeUtf16 edit.text.toList ++ b.drop (b.index r.stop)

/-- Every edit fits the buffer that those before it have left. -/
def FitAll : Buffer → List Edit → Prop
  | _, [] => True
  | b, edit :: rest => b.Fits edit ∧ (b.edited edit).FitAll rest

instance decidableFitAll : (b : Buffer) → (edits : List Edit) → Decidable (b.FitAll edits)
  | _, [] => inferInstanceAs (Decidable True)
  | b, edit :: rest =>
      have := decidableFitAll (b.edited edit) rest
      inferInstanceAs (Decidable (b.Fits edit ∧ (b.edited edit).FitAll rest))

/-- The store and the editor make an edit alike. -/
theorem encodeUtf16_edited {text : String} {edit : Edit}
    (h : Fits (encodeUtf16 text.toList) edit) :
    encodeUtf16 (Document.edited text edit).toList = edited (encodeUtf16 text.toList) edit := by
  unfold Document.edited edited
  cases hrange : edit.range with
  | none => rfl
  | some r =>
      obtain ⟨hstart, hstop, horder⟩ := h r hrange
      simp only [String.toList_ofList]
      exact encodeUtf16_splice _ hstart hstop horder

theorem encodeUtf16_foldl_edited {text : String} {edits : List Edit}
    (h : FitAll (encodeUtf16 text.toList) edits) :
    encodeUtf16 (edits.foldl Document.edited text).toList =
      edits.foldl edited (encodeUtf16 text.toList) := by
  induction edits generalizing text with
  | nil => rfl
  | cons edit rest ih =>
      obtain ⟨hedit, hrest⟩ := h
      rw [← encodeUtf16_edited hedit] at hrest
      rw [List.foldl_cons, List.foldl_cons, ih hrest, encodeUtf16_edited hedit]

end Buffer

/-- One change of a document: some edits, and the version they lead to. -/
structure Revision where
  uri : Uri
  version : Int
  edits : List Edit

namespace DocumentStore

/-- The store after a change. A change of a document that is not open is ignored. -/
def revised (s : DocumentStore) (r : Revision) : DocumentStore :=
  (s.change? r.uri r.version r.edits).getD s

theorem text?_openDocument (s : DocumentStore) (uri : Uri) (text : String) (version : Int) :
    (s.openDocument uri text version).text? uri = some text := by
  have hget : (s.openDocument uri text version).get? uri = some ⟨uri, text, version⟩ :=
    SortedMap.get?_insert_self _ _ _
  rw [text?, hget, Option.map_some]

theorem text_foldl_apply (edits : List Edit) (d : Document) :
    (edits.foldl Document.apply d).text = edits.foldl Document.edited d.text := by
  induction edits generalizing d with
  | nil => rfl
  | cons edit rest ih => exact ih (d.apply edit)

/-- A change makes its edits one after the other. -/
theorem text?_revised_self {s : DocumentStore} {r : Revision} {text : String}
    (h : s.text? r.uri = some text) :
    (s.revised r).text? r.uri = some (r.edits.foldl Document.edited text) := by
  rw [text?, Option.map_eq_some_iff] at h
  obtain ⟨d, hd, rfl⟩ := h
  have hget : (s.revised r).get? r.uri =
      some { r.edits.foldl Document.apply d with version := r.version } := by
    rw [revised, change?, hd, Option.map_some, Option.getD_some]
    exact SortedMap.get?_insert_self _ _ _
  rw [text?, hget, Option.map_some, text_foldl_apply]

theorem text?_revised_of_ne (s : DocumentStore) {r : Revision} {uri : Uri} (hne : uri ≠ r.uri) :
    (s.revised r).text? uri = s.text? uri := by
  unfold revised change?
  cases s.get? r.uri with
  | none => rfl
  | some d =>
      rw [Option.map_some, Option.getD_some, text?, text?]
      exact congrArg _ (SortedMap.get?_insert_of_ne _ _ hne)

end DocumentStore

namespace Buffer

/-- The buffer of the document `uri` after a change, which may be one of another document. -/
def revised (uri : Uri) (b : Buffer) (r : Revision) : Buffer :=
  if r.uri = uri then r.edits.foldl edited b else b

/-- Every change of the document `uri` fits the buffer that those before it have left. -/
def Takes (uri : Uri) : Buffer → List Revision → Prop
  | _, [] => True
  | b, r :: rest => (r.uri = uri → b.FitAll r.edits) ∧ (b.revised uri r).Takes uri rest

instance decidableTakes (uri : Uri) :
    (b : Buffer) → (revisions : List Revision) → Decidable (b.Takes uri revisions)
  | _, [] => inferInstanceAs (Decidable True)
  | b, r :: rest =>
      have := decidableTakes uri (b.revised uri r) rest
      inferInstanceAs
        (Decidable ((r.uri = uri → b.FitAll r.edits) ∧ (b.revised uri r).Takes uri rest))

theorem text?_foldl_revised {s : DocumentStore} {uri : Uri} {text : String}
    {revisions : List Revision} (htext : s.text? uri = some text)
    (htakes : Takes uri (encodeUtf16 text.toList) revisions) :
    ∃ current, (revisions.foldl DocumentStore.revised s).text? uri = some current ∧
      encodeUtf16 current.toList =
        revisions.foldl (revised uri) (encodeUtf16 text.toList) := by
  induction revisions generalizing s text with
  | nil => exact ⟨text, htext, rfl⟩
  | cons r rest ih =>
      obtain ⟨hfit, hrest⟩ := htakes
      rw [List.foldl_cons, List.foldl_cons]
      by_cases huri : r.uri = uri
      · subst huri
        rw [revised, if_pos rfl, ← encodeUtf16_foldl_edited (hfit rfl)] at hrest
        rw [revised, if_pos rfl, ← encodeUtf16_foldl_edited (hfit rfl)]
        exact ih (DocumentStore.text?_revised_self htext) hrest
      · rw [revised, if_neg huri] at hrest
        rw [revised, if_neg huri]
        exact ih ((s.text?_revised_of_ne (Ne.symm huri)).trans htext) hrest

/-- A document that is opened and then changed any number of times, with other documents changed in
between, has the text of the editor's buffer: its UTF-16 encoding is what splicing the edits into
the code units gives. -/
theorem text_mirrors_buffer (s : DocumentStore) (uri : Uri) (text : String) (version : Int)
    (revisions : List Revision)
    (htakes : Takes uri (encodeUtf16 text.toList) revisions) :
    ∃ current,
      (revisions.foldl DocumentStore.revised (s.openDocument uri text version)).text? uri =
        some current ∧
      encodeUtf16 current.toList =
        revisions.foldl (revised uri) (encodeUtf16 text.toList) :=
  text?_foldl_revised (s.text?_openDocument uri text version) htakes

namespace MirrorWitness

def uri : Uri := ⟨"file:///a.nf"⟩

/-- The second edit is behind a character of two code units that the first one has put in, and the
second change empties a line. -/
def revisions : List Revision :=
  [⟨uri, 2, [⟨some ⟨⟨0, 1⟩, ⟨0, 2⟩⟩, "😀é"⟩, ⟨some ⟨⟨0, 3⟩, ⟨1, 1⟩⟩, "\n"⟩]⟩,
    ⟨⟨"file:///b.nf"⟩, 2, [⟨none, "b"⟩]⟩,
    ⟨uri, 3, [⟨some ⟨⟨0, 0⟩, ⟨0, 3⟩⟩, ""⟩]⟩]

def opened : DocumentStore := DocumentStore.empty.openDocument uri "abc\nde" 1

/-- Edits around a character that is one to the store and two code units to the editor. -/
theorem text_mirrors_buffer_surrogates :
    Takes uri (encodeUtf16 "abc\nde".toList) revisions ∧
      (revisions.foldl DocumentStore.revised opened).text? uri = some "\ne" ∧
      ∃ current, (revisions.foldl DocumentStore.revised opened).text? uri = some current ∧
        encodeUtf16 current.toList =
          revisions.foldl (revised uri) (encodeUtf16 "abc\nde".toList) := by
  have htakes : Takes uri (encodeUtf16 "abc\nde".toList) revisions := by decide +kernel
  exact ⟨htakes, by decide +kernel,
    text_mirrors_buffer DocumentStore.empty uri "abc\nde" 1 revisions htakes⟩

end MirrorWitness

end Buffer

end PipelineServer
