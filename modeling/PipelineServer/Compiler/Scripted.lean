import PipelineServer.Compiler.Frontend
import PipelineServer.Compiler.Scanning

/-!
A frontend that acts from a script.

It stands in for a real compiler where one wants to see how the workspace takes a certain message,
failure or breakdown. It keeps a record of what it was asked to do.
-/

namespace PipelineServer.Scripted

/-- One request to configure a session. -/
structure Call where
  config : Config
  openUris : List Uri
  changed : UriSet
  previous : Option SessionId

/-- What the frontend will do, and what it has been asked to do. -/
structure State where
  /-- The messages of the next compilation. -/
  messages : List Message := []
  /-- How the next compilation ends; by default as its messages suggest. -/
  outcome : Option CompileOutcome := none
  declarations : SortedMap Uri (List Declaration) := ∅
  /-- Why the next configuration fails, if it does. -/
  failure : Option FrontendError := none
  outputBase : Option Path := none
  /-- Whether a previous session is kept. -/
  keep : Bool := true
  made : Nat := 0
  calls : List Call := []
  compiled : List Phase := []

instance : Inhabited State := ⟨{}⟩

/-- A session that plays back messages. -/
structure Session where
  id : SessionId
  config : Config
  outputDirectory : Option Path
  messages : List Message

/-- Fails as scripted, keeps the previous session, or makes the next one. -/
def configure (state : State) (config : Config) (documents : DocumentStore) (changed : UriSet)
    (previous : Option Session) : State × Except FrontendError Session :=
  let call : Call := ⟨config, documents.documents.keys, changed, previous.map Session.id⟩
  let state := { state with calls := state.calls ++ [call] }
  match state.failure, previous with
  | some e, _ => (state, .error e)
  | none, some session =>
      if state.keep then (state, .ok session) else make state
  | none, none => make state
where
  make (state : State) : State × Except FrontendError Session :=
    let id : SessionId := ⟨state.made + 1⟩
    let output := state.outputBase.map fun base => base.join (Scanning.outputName id)
    ({ state with made := state.made + 1 }, .ok ⟨id, config, output, []⟩)

/-- How a compilation with these messages ends of itself. -/
def naturalOutcome (messages : List Message) : CompileOutcome :=
  match (messages.filter Message.isSyntaxError).length with
  | 0 => .finished
  | count => .failed (.manyErrors count)

/-- Takes over the scripted messages and ends as scripted. -/
def compile (state : State) (phase : Phase) (session : Session) :
    State × Session × CompileOutcome :=
  ({ state with compiled := state.compiled ++ [phase] },
    { session with messages := state.messages },
    state.outcome.getD (naturalOutcome state.messages))

/-- The scripted frontend. -/
def frontend : Frontend where
  State := State
  Session := Session
  configure state _ := configure state
  compile := compile
  id := Session.id
  config := Session.config
  outputDirectory := Session.outputDirectory
  messages := Session.messages
  forest state _ := ⟨state.declarations.keys, state.declarations.get?⟩

end PipelineServer.Scripted
