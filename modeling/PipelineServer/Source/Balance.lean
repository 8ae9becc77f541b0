import PipelineServer.Source.Message
import PipelineServer.Source.Token

/-!
The syntax check: every delimiter has its partner, and every string and comment ends.
-/

namespace PipelineServer.Source

/-- What can be wrong with the delimiters and literals of a text. -/
inductive Fault
  /-- A closer that does not match the last open delimiter. -/
  | unexpected (closer : Char) (spot : Spot)
  /-- An opener that is never closed. -/
  | missing (opener : Char) (spot : Spot)
  /-- A string without an end. -/
  | openText (start stop : Spot)
  /-- A comment without an end. -/
  | openComment (start : Spot)
deriving DecidableEq, Repr

/-- The delimiter that closes `opener`. -/
def closerOf (opener : Char) : Char :=
  if opener = '\x7b' then '\x7d' else if opener = '(' then ')' else ']'

namespace Fault

/-- The stretch of text a fault is shown at. -/
def span : Fault → Span
  | .unexpected _ spot => .ofLength spot 1
  | .missing _ spot => .ofLength spot 1
  | .openText start stop => ⟨start, stop⟩
  | .openComment start => .ofLength start 2

/-- Only a comment without an end is no error. -/
def fatal : Fault → Bool
  | .openComment _ => false
  | _ => true

def text : Fault → String
  | .unexpected closer _ => "Unexpected '" ++ closer.toString ++ "'"
  | .missing opener _ =>
      "Missing '" ++ (closerOf opener).toString ++ "' to close '" ++ opener.toString ++ "'"
  | .openText _ _ => "Unterminated string literal"
  | .openComment _ => "Unterminated comment"

/-- The fault as a message about the file `source`. -/
def toMessage (source : Path) (f : Fault) : Message :=
  .syntaxError source f.span f.fatal f.text

end Fault

/-- Pairs up delimiters; `pending` are the openers that wait for their closer, the last one first.
A closer that does not fit leaves them as they are. Openers that are left over are reported last,
in the order of the text. -/
def settle (pending : List (Char × Spot)) : List Token → List Fault
  | [] => pending.reverse.map fun p => .missing p.1 p.2
  | .openText start stop :: rest => .openText start stop :: settle pending rest
  | .openComment start :: rest => .openComment start :: settle pending rest
  | .delimiter c spot :: rest =>
      if isOpener c then settle ((c, spot) :: pending) rest
      else
        match pending with
        | [] => .unexpected c spot :: settle [] rest
        | (opener, place) :: outer =>
            if closerOf opener = c then settle outer rest
            else .unexpected c spot :: settle ((opener, place) :: outer) rest

/-- The faults of a text. -/
def faults (text : List Char) : List Fault := settle [] (tokens text)

/-- The messages about a source file. -/
def check (source : Path) (text : String) : List Message :=
  (faults text.toList).map (Fault.toMessage source)

end PipelineServer.Source
