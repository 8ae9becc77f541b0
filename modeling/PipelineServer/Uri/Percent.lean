import PipelineServer.Text.Hex
import PipelineServer.Text.Utf8

/-!
Percent encoding: a byte as `%` and two hexadecimal digits.

Each part of a uri has its own set of characters that must be encoded; all that is not ASCII is
encoded everywhere.
-/

namespace PipelineServer.Uri

def upperHexDigit (n : Nat) : Char :=
  if n < 10 then Char.ofNat (48 + n) else Char.ofNat (55 + n)

/-- A byte in uppercase hexadecimal after a percent sign. -/
def escapeByte (b : UInt8) : List Char :=
  ['%', upperHexDigit (b.toNat / 16), upperHexDigit (b.toNat % 16)]

/-- Encodes a byte if it is not ASCII or `escaped` asks for it. -/
def encodeByte (escaped : Char → Bool) (b : UInt8) : List Char :=
  let c := Char.ofNat b.toNat
  if b < 0x80 && !escaped c then [c] else escapeByte b

def encodeBytes (escaped : Char → Bool) (bytes : List UInt8) : List Char :=
  bytes.flatMap (encodeByte escaped)

/-- Encodes a text by its bytes. -/
def encode (escaped : Char → Bool) (text : List Char) : List Char :=
  encodeBytes escaped (Text.encodeUtf8 (String.ofList text))

/-- The bytes an encoded text stands for; a percent sign without two digits stands for itself. -/
def decodeBytes : List Char → List UInt8
  | [] => []
  | '%' :: high :: low :: rest =>
      match Text.hexValue? high, Text.hexValue? low with
      | some h, some l => UInt8.ofNat (h * 16 + l) :: decodeBytes rest
      | _, _ => 0x25 :: decodeBytes (high :: low :: rest)
  | c :: rest => Text.encodeUtf8 c.toString ++ decodeBytes rest

/-- Control characters. -/
def controlSet (c : Char) : Bool := c.toNat < 0x20 || c.toNat = 0x7F

/-- What is encoded after `#`. -/
def fragmentSet (c : Char) : Bool := controlSet c || [' ', '"', '<', '>', '\x60'].contains c

/-- What is encoded after `?`. -/
def querySet (special : Bool) (c : Char) : Bool :=
  controlSet c || [' ', '"', '#', '<', '>'].contains c || (special && c = '\'')

/-- What is encoded in a path that is already written as a uri. -/
def pathSet (c : Char) : Bool := fragmentSet c || ['#', '?', '\x7b', '\x7d'].contains c

/-- What is encoded in the user name and password. -/
def userInfoSet (c : Char) : Bool :=
  pathSet c || ['/', ':', ';', '=', '@', '[', '\\', ']', '^', '|'].contains c

/-- What is encoded in a file name on its way into a uri. -/
def fileNameSet (c : Char) : Bool := pathSet c || ['/', '%', '\\'].contains c

end PipelineServer.Uri
