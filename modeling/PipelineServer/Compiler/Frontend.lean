import PipelineServer.Compiler.Phase
import PipelineServer.Disk.Tree
import PipelineServer.Editor.Document
import PipelineServer.Source.Declaration
import PipelineServer.Source.Message

/-!
What a compiler has to offer to be driven by an editor.

A frontend makes sessions. A session holds the sources of a workspace, is compiled again and again,
and keeps the messages and declarations of its last compilation.
-/

namespace PipelineServer

/-- What a session is built from. -/
structure Config where
  root : Option Path
  classpath : List String
deriving DecidableEq, Repr

namespace Config

/-- Configurations are the same when their roots name the same directory and their classpaths
agree entry by entry. -/
def same (a b : Config) : Bool :=
  (match a.root, b.root with
    | none, none => true
    | some p, some q => p.same q
    | _, _ => false) && a.classpath == b.classpath

end Config

/-- The identity of a session. -/
structure SessionId where
  number : Nat
deriving DecidableEq, Repr

/-- The number behind a hash sign. -/
def SessionId.display (id : SessionId) : String := "#" ++ toString id.number

/-- Why a frontend did not do what it was asked to. -/
inductive FrontendError
  /-- The sources have errors, which are among the messages. -/
  | manyErrors (count : Nat)
  /-- A bug in the frontend. -/
  | bug (reason : String)
  | unexpected (reason : String)
  | inputOutput (reason : String)
deriving DecidableEq, Repr

def FrontendError.message : FrontendError → String
  | .manyErrors count => "compilation failed with " ++ toString count ++ " error(s)"
  | .bug reason => "internal compiler error: " ++ reason
  | .unexpected reason => reason
  | .inputOutput reason => "i/o error: " ++ reason

/-- How a compilation ended. -/
inductive CompileOutcome
  | finished
  | failed (error : FrontendError)
  /-- The frontend broke down, perhaps with last words. -/
  | crashed (reason : Option String)
deriving DecidableEq, Repr

/-- The declarations a session knows, by file. -/
structure Forest where
  /-- The files of the session. -/
  sources : List Uri
  /-- The declarations of a file; nothing if it is not part of the session. -/
  declarations : Uri → Option (List Declaration)

/-- A compiler frontend, with its own state and its own kind of sessions. -/
structure Frontend where
  State : Type
  Session : Type
  /-- Makes the session for a configuration. It gets the open documents, the uris that changed
  since the last call, and the previous session if that was built from the same configuration;
  returning that session keeps its identity. -/
  configure : State → FileTree → Config → DocumentStore → UriSet → Option Session →
    State × Except FrontendError Session
  /-- Compiles every source up to a phase. -/
  compile : State → Phase → Session → State × Session × CompileOutcome
  id : Session → SessionId
  /-- The configuration the session was built from. -/
  config : Session → Config
  /-- Where compiled files would be written. -/
  outputDirectory : Session → Option Path
  /-- The messages of the last compilation, in the order in which they came up. -/
  messages : Session → List Message
  /-- The declarations of the last compilation. -/
  forest : State → Session → Forest

end PipelineServer
