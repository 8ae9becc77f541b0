import PipelineServer.Json.Number

/-!
JSON values.
-/

namespace PipelineServer

/-- A JSON value. The members of an object are kept as they were written. -/
inductive Json
  | null
  | bool (value : Bool)
  | number (value : Number)
  | text (value : String)
  | array (items : List Json)
  | object (members : List (String × Json))
deriving Inhabited, Repr

namespace Json

/-- The integer `n`. -/
def int (n : Int) : Json := .number (.integer n)

def nat (n : Nat) : Json := .int n

/-- The value of a member; of several with one name the last counts. -/
def member? (members : List (String × Json)) (key : String) : Option Json :=
  (members.reverse.find? fun m => m.1 == key).map Prod.snd

/-- A member of an object. -/
def get? (value : Json) (key : String) : Option Json :=
  match value with
  | .object members => member? members key
  | _ => none

def isNull : Json → Bool
  | .null => true
  | _ => false

def string? : Json → Option String
  | .text value => some value
  | _ => none

def bool? : Json → Option Bool
  | .bool value => some value
  | _ => none

def integer? : Json → Option Int
  | .number (.integer value) => some value
  | _ => none

def items? : Json → Option (List Json)
  | .array items => some items
  | _ => none

def members? : Json → Option (List (String × Json))
  | .object members => some members
  | _ => none

/-- An object of the members that have a value. -/
def ofFields (fields : List (String × Option Json)) : Json :=
  .object (fields.filterMap fun f => f.2.map fun value => (f.1, value))

end Json

end PipelineServer
