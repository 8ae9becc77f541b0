/-!
The phases of a compiler.
-/

namespace PipelineServer

/-- Compiler phases in the order in which they run. -/
inductive Phase
  | initialization
  | parsing
  | conversion
  | semanticAnalysis
  | canonicalization
  | instructionSelection
  | classGeneration
  | output
  | finalization
deriving DecidableEq, Repr

namespace Phase

def rank : Phase → Nat
  | .initialization => 0
  | .parsing => 1
  | .conversion => 2
  | .semanticAnalysis => 3
  | .canonicalization => 4
  | .instructionSelection => 5
  | .classGeneration => 6
  | .output => 7
  | .finalization => 8

/-- Whether compiling up to `p` runs `q`. -/
def reaches (p q : Phase) : Bool := q.rank ≤ p.rank

/-- The last phase an editor needs: names and types are resolved, and all that follows produces
code. -/
def boundary : Phase := .canonicalization

end Phase

end PipelineServer
