import PipelineServer.CommandLine
import PipelineServer.Server.Run

/-!
The program as a whole: from its command line and input to its output and exit code.
-/

namespace PipelineServer

/-- What running the program leads to. -/
structure Execution where
  exitCode : Nat
  disk : FileTree
  outputs : List Output

namespace Program

/-- What the server is asked for by the command line. -/
def serverOptions (r : CommandLine.Request) (scratch : Path) : ServerOptions :=
  ⟨r.root, r.outputDirectory, scratch⟩

/-- A server that did not end well makes the program fail. -/
def exitCode : Stage → Nat
  | .ended .ok => 0
  | _ => 1

/-- Runs the program. A command line that is not understood ends it before the server starts. -/
def execute (args : List String) (scratch : Path) (disk : FileTree) (input : List UInt8) :
    Execution :=
  match CommandLine.parse? args with
  | none => ⟨1, disk, []⟩
  | some r =>
      let turn := Server.run (serverOptions r scratch) disk input
      ⟨exitCode turn.stage, turn.disk, turn.outputs⟩

end Program

end PipelineServer
