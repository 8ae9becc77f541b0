import PipelineServer.Compiler.Frontend

/-!
The life of a session, as it is recorded.
-/

namespace PipelineServer

/-- Where the life of the session stands. -/
inductive SessionState
  /-- Nothing has been compiled yet. -/
  | uninitialized
  /-- A session is live; `reused` tells whether it was there before. -/
  | active (id : SessionId) (reused : Bool)
  /-- A new session took over. -/
  | replaced (previous current : SessionId)
  /-- There is no session; the next compilation starts over. -/
  | unusable (reason : String)
deriving DecidableEq, Repr, Inhabited

namespace SessionState

def isUsable : SessionState → Bool
  | .active .. | .replaced .. => true
  | _ => false

def describe : SessionState → String
  | .uninitialized => "Uninitialized"
  | .active id true => "Active " ++ id.display ++ " (reused)"
  | .active id false => "Active " ++ id.display
  | .replaced previous current => "Replaced " ++ previous.display ++ " with " ++ current.display
  | .unusable reason => "Unusable: " ++ reason

end SessionState

/-- A step from one state to the next. -/
structure Transition where
  source : SessionState
  target : SessionState
  event : String
deriving DecidableEq, Repr

def Transition.describe (t : Transition) : String :=
  t.source.describe ++ " -> " ++ t.target.describe ++ " (" ++ t.event ++ ")"

/-- The last transitions, the oldest first; at most `limit` are kept. -/
structure History where
  transitions : List Transition
  limit : Nat
deriving DecidableEq, Repr

namespace History

/-- How many transitions are kept unless something else is asked for. -/
def defaultLimit : Nat := 50

/-- A history without transitions. -/
def new (limit : Nat) : History := ⟨[], limit⟩

/-- Adds a transition; the oldest goes if there are too many. -/
def record (h : History) (t : Transition) : History :=
  if h.limit = 0 then h
  else
    let kept := if h.limit ≤ h.transitions.length then h.transitions.drop 1 else h.transitions
    { h with transitions := kept ++ [t] }

def clear (h : History) : History := { h with transitions := [] }

/-- One line for each transition. -/
def describe (h : History) : String :=
  String.intercalate "\n" (h.transitions.map Transition.describe)

end History

end PipelineServer
