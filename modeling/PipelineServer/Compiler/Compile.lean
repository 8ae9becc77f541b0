import PipelineServer.Compiler.Frontend

/-!
Compiling a session and making sense of how it ended.

Errors in the sources are the normal case. Whatever else goes wrong is a fault, which still carries
the messages that were collected before.
-/

namespace PipelineServer

/-- A compilation that did not get to its end. -/
inductive CompileFault
  | bug (reason : String) (collected : List Message)
  | unexpected (reason : String) (collected : List Message)
deriving DecidableEq, Repr

namespace CompileFault

def collected : CompileFault → List Message
  | .bug _ messages | .unexpected _ messages => messages

def message : CompileFault → String
  | .bug reason _ => "internal compiler fault: " ++ reason
  | .unexpected reason _ => "unexpected fault while compiling: " ++ reason

end CompileFault

/-- The words for a breakdown. -/
def crashReason : Option String → String
  | some reason => "frontend panicked: " ++ reason
  | none => "frontend panicked"

/-- What an outcome means, given the messages collected on the way. -/
def judge (outcome : CompileOutcome) (messages : List Message) :
    Except CompileFault (List Message) :=
  match outcome with
  | .finished | .failed (.manyErrors _) => .ok messages
  | .failed (.bug reason) => .error (.bug reason messages)
  | .failed error => .error (.unexpected error.message messages)
  | .crashed reason => .error (.bug (crashReason reason) messages)

/-- Compiles a session up to the boundary. -/
def compileSession (F : Frontend) (state : F.State) (session : F.Session) :
    F.State × F.Session × Except CompileFault (List Message) :=
  let (state, session, outcome) := F.compile state .boundary session
  (state, session, judge outcome (F.messages session))

end PipelineServer
