import PipelineServer.Text.Utf8

/-!
Messages on the wire: header lines, an empty line, and as many bytes as the header said.

The reader takes one byte at a time. Input that ends inside the headers, but not inside a line, is
complete; input that ends anywhere else is broken.
-/

namespace PipelineServer.Frame

/-- What is being read. Bytes so far are held in reverse. -/
inductive Reader
  /-- A header line; `size` is the length of the body if it has been given. -/
  | header (line : List UInt8) (size : Option Nat)
  /-- A body of which `missing` bytes are still to come. -/
  | body (bytes : List UInt8) (missing : Nat)
deriving DecidableEq, Repr

/-- At the start of a message. -/
def Reader.start : Reader := .header [] none

/-- The largest size a body may have. -/
def maxSize : Nat := 18446744073709551615

/-- The digits of a size, perhaps behind a plus sign. -/
def size? (text : List Char) : Option Nat :=
  let digits := match text with
    | '+' :: rest => rest
    | _ => text
  let n := digits.foldl (fun n c => n * 10 + (c.toNat - 48)) 0
  if digits.isEmpty || !digits.all Char.isDigit || maxSize < n then none else some n

/-- Cuts a header line at its first colon and space. -/
def cutHeader? (name : List Char) : List Char → Option (List Char × List Char)
  | ':' :: ' ' :: value => some (name.reverse, value)
  | c :: rest => cutHeader? (c :: name) rest
  | [] => none

/-- Whether two texts agree apart from the case of ASCII letters. -/
def sameLetters (a b : List Char) : Bool := a.map Char.toLower == b.map Char.toLower

/-- What is known of the size after a header line; nothing if the line is malformed. -/
def header? (size : Option Nat) (line : List Char) : Option (Option Nat) :=
  (cutHeader? [] line).bind fun (name, value) =>
    if sameLetters name "Content-Length".toList then (size? value).map some else some size

/-- The line without its end; nothing if it does not end as it should. -/
def lineText? (line : List UInt8) : Option (List Char) :=
  match line with
  | 13 :: rest => (Text.decodeUtf8? rest.reverse).map String.toList
  | _ => none

/-- The outcome of one byte: what is read next, and the text of a body that is now complete. -/
abbrev Taken := Option (Reader × Option String)

/-- A finished body. -/
def finishBody (bytes : List UInt8) : Taken :=
  (Text.decodeUtf8? bytes.reverse).map fun text => (.start, some text)

/-- Takes one byte; nothing if the input is malformed. -/
def takeByte (reader : Reader) (b : UInt8) : Taken :=
  match reader with
  | .header line size =>
      if b = 10 then
        (lineText? line).bind fun text =>
          if text.isEmpty then
            match size with
            | none => none
            | some 0 => finishBody []
            | some n => some (.body [] n, none)
          else (header? size text).map fun size => (.header [] size, none)
      else some (.header (b :: line) size, none)
  | .body bytes missing =>
      if missing ≤ 1 then finishBody (b :: bytes)
      else some (.body (b :: bytes) (missing - 1), none)

/-- Whether the input may end here. -/
def Reader.mayEnd : Reader → Bool
  | .header line _ => line.isEmpty
  | .body _ _ => false

/-- A message as it is sent. -/
def wrap (text : String) : List UInt8 :=
  let body := Text.encodeUtf8 text
  Text.encodeUtf8 ("Content-Length: " ++ toString body.length ++ "\r\n\r\n") ++ body

end PipelineServer.Frame
