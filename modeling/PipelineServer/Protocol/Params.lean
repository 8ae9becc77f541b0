import PipelineServer.Editor.Document
import PipelineServer.Protocol.Capabilities
import PipelineServer.Uri.Parse

/-!
Reading the parameters of requests and notifications.

A record is an object with named members or, unless it is spread over its surroundings, a list with
one item for each field. Members that no one asks for are ignored.
-/

namespace PipelineServer.Params

/-- A value, or what is wrong with it. -/
abbrev Read (α : Type) := Except String α

/-- The fields of a record. -/
inductive Fields
  | named (members : List (String × Json))
  | listed (items : List Json)

/-- The fields of a record with `size` fields. -/
def fields (size : Nat) : Json → Read Fields
  | .object members => .ok (.named members)
  | .array items =>
      if items.length ≤ size then .ok (.listed items) else .error "too many fields"
  | _ => .error "expected a record"

/-- The fields of a record that can only be an object. -/
def namedFields : Json → Read Fields
  | .object members => .ok (.named members)
  | _ => .error "expected an object"

namespace Fields

/-- The value of the field `name`, which is at position `i` of a list. -/
def get? (f : Fields) (name : String) (i : Nat) : Option Json :=
  match f with
  | .named members => Json.member? members name
  | .listed items => items[i]?

/-- A field that must be there. -/
def required {α : Type} (f : Fields) (name : String) (i : Nat) (read : Json → Read α) : Read α :=
  match f.get? name i with
  | some value => read value
  | none => .error ("missing field " ++ name)

/-- A field that may be absent or null. In a list it may only be null. -/
def optional {α : Type} (f : Fields) (name : String) (i : Nat) (read : Json → Read α) :
    Read (Option α) :=
  match f, f.get? name i with
  | .listed _, none => .error ("missing field " ++ name)
  | _, none | _, some .null => .ok none
  | _, some value => (read value).map some

/-- A field that may be absent or null, in a list too. -/
def defaulted {α : Type} (f : Fields) (name : String) (i : Nat) (read : Json → Read α) :
    Read (Option α) :=
  match f.get? name i with
  | none | some .null => .ok none
  | some value => (read value).map some

end Fields

def text : Json → Read String
  | .text value => .ok value
  | _ => .error "expected a string"

/-- An integer between two bounds. -/
def bounded (lower upper : Int) : Json → Read Int
  | .number (.integer value) =>
      if lower ≤ value && value ≤ upper then .ok value else .error "integer out of range"
  | _ => .error "expected an integer"

/-- An unsigned integer of 32 bits. -/
def count (value : Json) : Read Nat := (bounded 0 4294967295 value).map Int.toNat

/-- A signed integer of 32 bits. -/
def signed : Json → Read Int := bounded (-2147483648) 2147483647

/-- An absolute uri. -/
def uri (value : Json) : Read Uri := do
  match Uri.parse? (← text value) with
  | some u => .ok u
  | none => .error "expected a uri"

def list {α : Type} (read : Json → Read α) : Json → Read (List α)
  | .array items => items.mapM read
  | _ => .error "expected a list"

def any : Json → Read Json := .ok

def position (value : Json) : Read Position := do
  let f ← fields 2 value
  return ⟨← f.required "line" 0 count, ← f.required "character" 1 count⟩

def range (value : Json) : Read Range := do
  let f ← fields 2 value
  return ⟨← f.required "start" 0 position, ← f.required "end" 1 position⟩

/-- A document by its uri alone. -/
def documentUri (value : Json) : Read Uri := do
  (← fields 1 value).required "uri" 0 uri

structure Opened where
  uri : Uri
  text : String
  version : Int

def openedDocument (value : Json) : Read Opened := do
  let f ← fields 4 value
  let u ← f.required "uri" 0 uri
  let _ ← f.required "languageId" 1 text
  let version ← f.required "version" 2 signed
  return ⟨u, ← f.required "text" 3 text, version⟩

def opened (value : Json) : Read Opened := do
  (← fields 1 value).required "textDocument" 0 openedDocument

structure Edited where
  uri : Uri
  version : Int
  edits : List Edit

def versionedDocument (value : Json) : Read (Uri × Int) := do
  let f ← fields 2 value
  return (← f.required "uri" 0 uri, ← f.required "version" 1 signed)

def edit (value : Json) : Read Edit := do
  let f ← fields 3 value
  let r ← f.optional "range" 0 range
  let _ ← f.optional "rangeLength" 1 count
  return ⟨r, ← f.required "text" 2 text⟩

def edited (value : Json) : Read Edited := do
  let f ← fields 2 value
  let (u, version) ← f.required "textDocument" 0 versionedDocument
  return ⟨u, version, ← f.required "contentChanges" 1 (list edit)⟩

def saved (value : Json) : Read Uri := do
  let f ← fields 2 value
  let u ← f.required "textDocument" 0 documentUri
  let _ ← f.optional "text" 1 text
  return u

def closed (value : Json) : Read Uri := do
  (← fields 1 value).required "textDocument" 0 documentUri

def fileEvent (value : Json) : Read Uri := do
  let f ← fields 2 value
  let u ← f.required "uri" 0 uri
  let _ ← f.required "type" 1 signed
  return u

def watched (value : Json) : Read (List Uri) := do
  (← fields 1 value).required "changes" 0 (list fileEvent)

def settings (value : Json) : Read Json := do
  (← fields 1 value).required "settings" 0 any

/-- A token that names a piece of work. -/
def token : Json → Read Unit
  | .text _ => .ok ()
  | value => (signed value).map fun _ => ()

/-- How a completion was asked for. -/
def completionContext (value : Json) : Read Unit := do
  let f ← fields 2 value
  let _ ← f.required "triggerKind" 0 signed
  let _ ← f.optional "triggerCharacter" 1 text

/-- The document a request is about. -/
def subject (value : Json) : Read Uri := do
  (← namedFields value).required "textDocument" 0 documentUri

/-- A place in a document, for a hover. -/
def place (value : Json) : Read (Uri × Position) := do
  let u ← subject value
  let f ← namedFields value
  let p ← f.required "position" 0 position
  let _ ← f.optional "workDoneToken" 0 token
  return (u, p)

/-- A place in a document, for a completion. -/
def completionPlace (value : Json) : Read (Uri × Position) := do
  let found ← place value
  let f ← namedFields value
  let _ ← f.optional "partialResultToken" 0 token
  let _ ← f.optional "context" 0 completionContext
  return found

/-- The document of an outline. -/
def outlined (value : Json) : Read Uri := do
  let u ← subject value
  let f ← namedFields value
  let _ ← f.optional "workDoneToken" 0 token
  let _ ← f.optional "partialResultToken" 0 token
  return u

/-- What the client tells about itself when it starts the server. -/
structure Start where
  rootUri : Option Uri
  options : Option Json
  folders : Option (List Uri)

def folder (value : Json) : Read Uri := do
  let f ← fields 2 value
  let u ← f.required "uri" 0 uri
  let _ ← f.required "name" 1 text
  return u

def clientInfo (value : Json) : Read Unit := do
  let f ← fields 2 value
  let _ ← f.required "name" 0 text
  let _ ← f.optional "version" 1 text

/-- A value of a shape, of which nothing is kept. -/
def shaped (shape : Shape) (value : Json) : Read Unit :=
  if shape.fits value then .ok () else .error "unexpected shape"

/-- How much the client wants to be told. -/
def traceLevel : Shape := .word ["off", "messages", "verbose"]

def start (value : Json) : Read Start := do
  let f ← fields 9 value
  let _ ← f.optional "processId" 0 count
  let _ ← f.optional "rootPath" 1 text
  let rootUri ← f.defaulted "rootUri" 2 uri
  let options ← f.optional "initializationOptions" 3 any
  let _ ← f.required "capabilities" 4 (shaped Capabilities.client)
  let _ ← f.defaulted "trace" 5 (shaped traceLevel)
  let folders ← f.optional "workspaceFolders" 6 (list folder)
  let _ ← f.optional "clientInfo" 7 clientInfo
  let _ ← f.optional "locale" 8 text
  return ⟨rootUri, options, folders⟩

end PipelineServer.Params
