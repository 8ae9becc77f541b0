import PipelineServer.Source.Message
import PipelineServer.Text.Position
import PipelineServer.Uri.File

/-!
Diagnostics of the files of a workspace.

An editor keeps what was last published for a file. So whatever was published once has to be
cleared when it no longer holds, by publishing an empty list.
-/

namespace PipelineServer

inductive Severity
  | error
  | warning
deriving DecidableEq, Repr

/-- The number of a severity. -/
def Severity.number : Severity → Nat
  | .error => 1
  | .warning => 2

/-- A remark at a place in a file. -/
structure Diagnostic where
  range : Range
  severity : Severity
  text : String
deriving DecidableEq, Repr

namespace Diagnostic

/-- What diagnostics give as their origin. -/
def origin : String := "nextflow"

/-- The diagnostic of an error. -/
def ofError (span : Span) (fatal : Bool) (text : String) : Diagnostic :=
  ⟨span.toRange, if fatal then .error else .warning, text⟩

end Diagnostic

/-- The diagnostics of every file that has some. -/
abbrev Snapshot := SortedMap Uri (List Diagnostic)

/-- What is sent to the editor, in the order of the uris. -/
abbrev PublishSet := List (Uri × List Diagnostic)

namespace Snapshot

/-- Adds a diagnostic behind those the file already has. -/
def push (s : Snapshot) (uri : Uri) (d : Diagnostic) : Snapshot :=
  s.insert uri ((s.get? uri).getD [] ++ [d])

/-- Adds an error to the file that `uriOf` finds for its source. Other messages are not shown. -/
def addMessage (uriOf : Path → Option Uri) (s : Snapshot) : Message → Snapshot
  | .syntaxError source span fatal text =>
      match uriOf source with
      | some uri => s.push uri (.ofError span fatal text)
      | none => s
  | .warning _ _ | .exception _ => s

/-- The diagnostics of a list of messages, by file and in the order of the messages. -/
def ofMessages (uriOf : Path → Option Uri) (messages : List Message) : Snapshot :=
  messages.foldl (addMessage uriOf) ∅

/-- What to publish: the diagnostics of every file, and an empty list for each file that had some
before and has none now. -/
def publishSet (previous current : Snapshot) : PublishSet :=
  (previous.keys.foldl (fun s uri => SortedMap.insertIfNew s uri []) current).entries

end Snapshot

/-- The sources of errors that are not shown because they have no uri. -/
def unplaced (uriOf : Path → Option Uri) (messages : List Message) : List Path :=
  messages.filterMap fun m =>
    match m with
    | .syntaxError source _ _ _ => if (uriOf source).isNone then some source else none
    | _ => none

end PipelineServer
