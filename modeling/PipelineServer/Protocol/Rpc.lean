import PipelineServer.Json.Reader
import PipelineServer.Text.Quoted

/-!
Requests, responses and notifications.
-/

namespace PipelineServer

/-- What ties a response to its request. -/
inductive RequestId
  | number (value : Int)
  | text (value : String)
deriving DecidableEq, Repr

namespace RequestId

def toJson : RequestId → Json
  | .number value => .int value
  | .text value => .text value

/-- Numbers plain, texts in quotes. -/
def display : RequestId → String
  | .number value => toString value
  | .text value => Text.quote value

/-- Whether a number fits in 32 bits with a sign. -/
def fits (value : Int) : Bool := -2147483648 ≤ value && value ≤ 2147483647

def ofJson? : Json → Option RequestId
  | .number (.integer value) => if fits value then some (.number value) else none
  | .text value => some (.text value)
  | _ => none

end RequestId

/-- A message from the client. -/
inductive Incoming
  | request (id : RequestId) (method : String) (params : Json)
  | response (id : RequestId)
  | notification (method : String) (params : Json)
deriving Repr

/-- A message to the client. -/
inductive Outgoing
  | result (id : RequestId) (value : Json)
  | failure (id : RequestId) (code : Int) (text : String)
  | notification (method : String) (params : Json)
deriving Repr

namespace Incoming

/-- The only member of a name; a name that is given twice makes the message unreadable. -/
def single? (members : List (String × Json)) (key : String) : Option (Option Json) :=
  match members.filter fun m => m.1 == key with
  | [] => some none
  | [m] => some (some m.2)
  | _ => none

/-- The error of a response: absent, or a code and a text. -/
def isError : Option Json → Bool
  | none | some .null => true
  | some (.object members) =>
      match single? members "code", single? members "message", single? members "data" with
      | some (some (.number (.integer code))), some (some (.text _)), some _ => RequestId.fits code
      | _, _, _ => false
  | some (.array (.number (.integer code) :: .text _ :: data)) =>
      RequestId.fits code && data.length ≤ 1
  | some _ => false

/-- A request has an id and a method. -/
def request? : Json → Option Incoming
  | .object members => do
      let id ← RequestId.ofJson? (← (← single? members "id"))
      let method ← Json.string? (← (← single? members "method"))
      let params ← single? members "params"
      some (.request id method (params.getD .null))
  | .array [id, method] => do
      some (.request (← RequestId.ofJson? id) (← method.string?) .null)
  | .array [id, method, params] => do
      some (.request (← RequestId.ofJson? id) (← method.string?) params)
  | _ => none

/-- A response has an id, and perhaps a result and an error. -/
def response? : Json → Option Incoming
  | .object members => do
      let id ← RequestId.ofJson? (← (← single? members "id"))
      let _ ← single? members "result"
      let error ← single? members "error"
      if isError error then some (.response id) else none
  | .array (id :: fields) => do
      let id ← RequestId.ofJson? id
      if fields.length ≤ 2 && isError fields[1]? then some (.response id) else none
  | _ => none

/-- A notification has a method. It is an object: any list that could be one is a response. -/
def notification? : Json → Option Incoming
  | .object members => do
      let method ← Json.string? (← (← single? members "method"))
      let params ← single? members "params"
      some (.notification method (params.getD .null))
  | _ => none

/-- A message is the first of these that it can be read as. -/
def ofJson? (value : Json) : Option Incoming :=
  request? value <|> response? value <|> notification? value

/-- Reads a message. -/
def parse? (text : String) : Option Incoming := (Json.parse? text).bind ofJson?

/-- Whether nothing is read after this message. -/
def isExit : Incoming → Bool
  | .notification method _ => method == "exit"
  | _ => false

end Incoming

namespace Outgoing

def version : String × Json := ("jsonrpc", .text "2.0")

def toJson : Outgoing → Json
  | .result id value => .object [version, ("id", id.toJson), ("result", value)]
  | .failure id code text =>
      .object [version, ("id", id.toJson),
        ("error", .object [("code", .int code), ("message", .text text)])]
  | .notification method params =>
      .object [version, ("method", .text method), ("params", params)]

end Outgoing

/-- Codes of failed requests. -/
def invalidParams : Int := -32602

def methodNotFound : Int := -32601

def notStarted : Int := -32002

end PipelineServer
