import PipelineServer.Server.Run

/-!
The part of the file system that handling a message can depend on.

Whoever runs the server on a real disk has to know it before the message is handled.
-/

namespace PipelineServer

/-- The uris an event is about. -/
def Event.uris : Event → List Uri
  | .opened uri _ _ | .edited uri _ _ | .saved uri | .closed uri | .visited uri => [uri]
  | .watched uris => uris
  | .cycle scope => scope.keys
  | .settings _ | .classpath _ | .root _ => []

/-- The uris a message is about; none for a message that cannot be understood. -/
def Incoming.uris : Incoming → List Uri
  | .request _ _ params => (Params.subject params).toOption.toList
  | .notification method params =>
      match Workspace.event? method params with
      | some (.ok event) => event.uris
      | _ => []
  | .response _ => []

/-- Directories that are searched, directories that are made and deleted, and single files. -/
structure Reach where
  sources : List Path
  outputs : List Path
  files : List Path
deriving DecidableEq, Repr

/-- What the server can look at or change when the given message comes, or the end of the input. -/
def Stage.reach (stage : Stage) (message : Option Incoming) : Reach :=
  match stage with
  | .serving a w =>
      let uris := (message.map Incoming.uris).getD [] ++ w.documents.changed.keys
      ⟨w.config.root.toList, [a.outputBase], uris.filterMap Uri.toPath?⟩
  | .closing a => ⟨[], [a.outputBase], []⟩
  | .waiting | .greeted _ | .ended _ => ⟨[], [], []⟩

end PipelineServer
