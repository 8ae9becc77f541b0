import PipelineServer.Diagnostics

/-!
What the workspace does to the world around it, as data.
-/

namespace PipelineServer

/-- How important a log line is. -/
inductive Level
  | debug
  | info
  | warning
  | error
deriving DecidableEq, Repr

/-- One thing done. -/
inductive Effect
  /-- A line for the operator. -/
  | log (level : Level) (text : String)
  /-- The diagnostics of a file, for the editor. -/
  | publish (uri : Uri) (diagnostics : List Diagnostic)
  /-- A directory was deleted with all it held. -/
  | deleted (directory : Path)
  /-- A directory was made with those above it. -/
  | made (directory : Path)
deriving DecidableEq, Repr

/-- Things done, in order. -/
abbrev Trace := List Effect

namespace Trace

/-- The log lines. -/
def logs (t : Trace) : List (Level × String) :=
  t.filterMap fun e =>
    match e with
    | .log level text => some (level, text)
    | _ => none

/-- The diagnostics sent to the editor. -/
def published (t : Trace) : PublishSet :=
  t.filterMap fun e =>
    match e with
    | .publish uri diagnostics => some (uri, diagnostics)
    | _ => none

end Trace

/-- A line for the operator about routine matters. -/
def debugLine (text : String) : Effect := .log .debug text

end PipelineServer
