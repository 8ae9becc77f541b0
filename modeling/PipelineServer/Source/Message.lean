import PipelineServer.Path
import PipelineServer.Source.Span

/-!
Messages of a compiler about its sources.
-/

namespace PipelineServer

/-- One entry of a compiler's list of messages. -/
inductive Message
  /-- An error at a place in a source file. Errors that are not fatal are shown as warnings. -/
  | syntaxError (source : Path) (span : Span) (fatal : Bool) (text : String)
  /-- A warning of the compiler itself, perhaps about a file. -/
  | warning (source : Option Path) (text : String)
  /-- A failure without a place. -/
  | exception (text : String)
deriving DecidableEq, Repr

/-- Whether the message is an error at a place. -/
def Message.isSyntaxError : Message → Bool
  | .syntaxError .. => true
  | _ => false

end PipelineServer
