import PipelineServer.Json.Basic

/-!
Writing a JSON text without blanks.
-/

namespace PipelineServer.Json

def lowerHexDigit (n : Nat) : Char :=
  if n < 10 then Char.ofNat (48 + n) else Char.ofNat (87 + n)

/-- One character inside a string. -/
def writeChar (c : Char) : List Char :=
  if c = '"' then ['\\', '"']
  else if c = '\\' then ['\\', '\\']
  else if c = '\n' then ['\\', 'n']
  else if c = '\r' then ['\\', 'r']
  else if c = '\t' then ['\\', 't']
  else if c.toNat = 8 then ['\\', 'b']
  else if c.toNat = 12 then ['\\', 'f']
  else if c.toNat < 0x20 then
    ['\\', 'u', '0', '0', lowerHexDigit (c.toNat / 16), lowerHexDigit (c.toNat % 16)]
  else [c]

def writeText (text : String) : String :=
  "\"" ++ String.ofList (text.toList.flatMap writeChar) ++ "\""

mutual

/-- Writes a value behind what is already written. -/
def writeAfter (out : String) : Json → String
  | .null => out ++ "null"
  | .bool true => out ++ "true"
  | .bool false => out ++ "false"
  | .number n => out ++ n.render
  | .text value => out ++ writeText value
  | .array items => writeItems (out ++ "[") items ++ "]"
  | .object members => writeMembers (out ++ "\x7b") members ++ "\x7d"

/-- Items with commas between them. -/
def writeItems (out : String) : List Json → String
  | [] => out
  | [item] => writeAfter out item
  | item :: rest => writeItems (writeAfter out item ++ ",") rest

/-- Members with commas between them. -/
def writeMembers (out : String) : List (String × Json) → String
  | [] => out
  | [(key, value)] => writeAfter (out ++ writeText key ++ ":") value
  | (key, value) :: rest =>
      writeMembers (writeAfter (out ++ writeText key ++ ":") value ++ ",") rest

end

/-- The text of a value. -/
def write (value : Json) : String := writeAfter "" value

end PipelineServer.Json
