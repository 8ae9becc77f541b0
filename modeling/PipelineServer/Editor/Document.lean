import PipelineServer.Text.Cursor
import PipelineServer.Uri.File

/-!
Open documents and the edits an editor sends for them.
-/

namespace PipelineServer

/-- A change of a document's text: of a range, or of the whole text if there is no range. -/
structure Edit where
  range : Option Range
  text : String
deriving DecidableEq, Repr

/-- The text of one open document. -/
structure Document where
  uri : Uri
  text : String
  version : Int
deriving DecidableEq, Repr

namespace Document

/-- The text after an edit. -/
def edited (text : String) (edit : Edit) : String :=
  match edit.range with
  | none => edit.text
  | some range => String.ofList (Text.splice text.toList range edit.text.toList)

/-- The document after an edit. -/
def apply (d : Document) (edit : Edit) : Document := { d with text := edited d.text edit }

/-- The local path of the document, if it has one. -/
def path? (d : Document) : Option Path := d.uri.toPath?

end Document

/-- The open documents, and the uris that changed since the compiler last looked. Closing a
document is a change too: from then on the file on disk counts. -/
structure DocumentStore where
  documents : SortedMap Uri Document
  changed : UriSet
deriving DecidableEq

namespace DocumentStore

/-- No document is open and nothing has changed. -/
def empty : DocumentStore := ⟨∅, ∅⟩

instance : Inhabited DocumentStore := ⟨empty⟩

def get? (s : DocumentStore) (uri : Uri) : Option Document := s.documents.get? uri

/-- The text of an open document. -/
def text? (s : DocumentStore) (uri : Uri) : Option String := (s.get? uri).map Document.text

def isOpen (s : DocumentStore) (uri : Uri) : Bool := s.documents.contains uri

/-- Marks a uri as changed, whether its text moved or not. -/
def mark (s : DocumentStore) (uri : Uri) : DocumentStore :=
  { s with changed := SortedSet.add s.changed uri }

/-- Opens a document, in place of one that is already open. -/
def openDocument (s : DocumentStore) (uri : Uri) (text : String) (version : Int) : DocumentStore :=
  { s with documents := s.documents.insert uri ⟨uri, text, version⟩ }.mark uri

/-- Applies edits in order; nothing if the document is not open. -/
def change? (s : DocumentStore) (uri : Uri) (version : Int) (edits : List Edit) :
    Option DocumentStore :=
  (s.get? uri).map fun d =>
    { s with
      documents := s.documents.insert uri { edits.foldl Document.apply d with version := version }
    }.mark uri

/-- Closes a document. -/
def close (s : DocumentStore) (uri : Uri) : DocumentStore :=
  { s with documents := s.documents.erase uri }.mark uri

/-- Forgets the changes, once they have been handed on. -/
def drained (s : DocumentStore) : DocumentStore := { s with changed := ∅ }

end DocumentStore

end PipelineServer
