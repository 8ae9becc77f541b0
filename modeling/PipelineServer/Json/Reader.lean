import PipelineServer.Json.Basic

/-!
Reading a JSON text.

The text is first cut into symbols, one character at a time, and the symbols are then assembled
with a stack of the arrays and objects that are still open.
-/

namespace PipelineServer.Json

/-- A symbol of a JSON text. -/
inductive Symbol
  | openObject
  | closeObject
  | openArray
  | closeArray
  | colon
  | comma
  | value (v : Json)
deriving Inhabited

/-- What the reader is inside of. Characters read so far are held in reverse. -/
inductive Inside
  | nothing
  | word (chars : List Char)
  | numeral (chars : List Char)
  | text (chars : List Char)
  /-- Behind a backslash. -/
  | escape (chars : List Char)
  /-- Inside four hexadecimal digits; `high` is a first half that waits for its second. -/
  | code (chars : List Char) (high : Option Nat) (digits : Nat) (value : Nat)
  /-- Behind a first half, where a backslash must follow. -/
  | half (chars : List Char) (high : Nat)
  /-- Behind a first half and a backslash, where a `u` must follow. -/
  | halfEscape (chars : List Char) (high : Nat)

def isNumeralChar (c : Char) : Bool :=
  c.isDigit || c == '-' || c == '+' || c == '.' || c == 'e' || c == 'E'

/-- Starts a symbol with `c`, behind the symbols `done`, which are held in reverse. -/
def startSymbol (done : List Symbol) (c : Char) : Option (List Symbol × Inside) :=
  if c == ' ' || c == '\n' || c == '\t' || c == '\r' then some (done, .nothing)
  else if c == '\x7b' then some (.openObject :: done, .nothing)
  else if c == '\x7d' then some (.closeObject :: done, .nothing)
  else if c == '[' then some (.openArray :: done, .nothing)
  else if c == ']' then some (.closeArray :: done, .nothing)
  else if c == ':' then some (.colon :: done, .nothing)
  else if c == ',' then some (.comma :: done, .nothing)
  else if c == '"' then some (done, .text [])
  else if c == '-' || c.isDigit then some (done, .numeral [c])
  else if c.isLower then some (done, .word [c])
  else none

/-- The value of a bare word. -/
def wordValue? (chars : List Char) : Option Json :=
  let word := String.ofList chars.reverse
  if word = "null" then some .null
  else if word = "true" then some (.bool true)
  else if word = "false" then some (.bool false)
  else none

/-- The character that a backslash and `c` stand for, other than a code. -/
def escaped? (c : Char) : Option Char :=
  if c == '"' || c == '\\' || c == '/' then some c
  else if c == 'b' then some (Char.ofNat 8)
  else if c == 'f' then some (Char.ofNat 12)
  else if c == 'n' then some '\n'
  else if c == 'r' then some '\r'
  else if c == 't' then some '\t'
  else none

def hexDigit? (c : Char) : Option Nat :=
  if c.isDigit then some (c.toNat - 48)
  else if 'a' ≤ c && c ≤ 'f' then some (c.toNat - 87)
  else if 'A' ≤ c && c ≤ 'F' then some (c.toNat - 55)
  else none

/-- What follows four hexadecimal digits. Halves of a pair must come together. -/
def closeCode (chars : List Char) (high : Option Nat) (value : Nat) : Option Inside :=
  let isHigh := 0xD800 ≤ value && value < 0xDC00
  let isLow := 0xDC00 ≤ value && value < 0xE000
  match high with
  | none =>
      if isHigh then some (.half chars value)
      else if isLow then none
      else some (.text (Char.ofNat value :: chars))
  | some first =>
      if isLow then
        some (.text (Char.ofNat (0x10000 + (first - 0xD800) * 0x400 + (value - 0xDC00)) :: chars))
      else none

/-- Takes one character. -/
def takeChar (done : List Symbol) (inside : Inside) (c : Char) : Option (List Symbol × Inside) :=
  match inside with
  | .nothing => startSymbol done c
  | .word chars =>
      if c.isLower then some (done, .word (c :: chars))
      else (wordValue? chars).bind fun v => startSymbol (.value v :: done) c
  | .numeral chars =>
      if isNumeralChar c then some (done, .numeral (c :: chars))
      else (Number.read? chars.reverse).bind fun n => startSymbol (.value (.number n) :: done) c
  | .text chars =>
      if c == '"' then some (.value (.text (String.ofList chars.reverse)) :: done, .nothing)
      else if c == '\\' then some (done, .escape chars)
      else if c.toNat < 0x20 then none
      else some (done, .text (c :: chars))
  | .escape chars =>
      if c == 'u' then some (done, .code chars none 0 0)
      else (escaped? c).map fun e => (done, .text (e :: chars))
  | .code chars high digits value =>
      (hexDigit? c).bind fun d =>
        let value := value * 16 + d
        if digits < 3 then some (done, .code chars high (digits + 1) value)
        else (closeCode chars high value).map fun next => (done, next)
  | .half chars high => if c == '\\' then some (done, .halfEscape chars high) else none
  | .halfEscape chars high => if c == 'u' then some (done, .code chars (some high) 0 0) else none

/-- The symbols of a text behind those already `done`, which are held in reverse. -/
def symbolsFrom (done : List Symbol) (inside : Inside) : List Char → Option (List Symbol)
  | [] =>
      match inside with
      | .nothing => some done.reverse
      | .word chars => (wordValue? chars).map fun v => (Symbol.value v :: done).reverse
      | .numeral chars =>
          (Number.read? chars.reverse).map fun n => (Symbol.value (.number n) :: done).reverse
      | _ => none
  | c :: rest => (takeChar done inside c).bind fun next => symbolsFrom next.1 next.2 rest

/-- An array or object that is still open. Items and members are held in reverse; `key` is the
name whose value is being read. -/
inductive Frame
  | array (items : List Json)
  | object (members : List (String × Json)) (key : String)

/-- What may come next. -/
inductive Expecting
  | value
  | valueOrClose
  | key (members : List (String × Json))
  | keyOrClose
  | colon (members : List (String × Json)) (key : String)
  | commaOrClose
  | nothing (result : Json)

/-- How many arrays and objects may be open at once. -/
def depthLimit : Nat := 127

/-- Puts a finished value where it belongs. -/
def deliver (stack : List Frame) (v : Json) : List Frame × Expecting :=
  match stack with
  | [] => ([], .nothing v)
  | .array items :: rest => (.array (v :: items) :: rest, .commaOrClose)
  | .object members key :: rest => (.object ((key, v) :: members) key :: rest, .commaOrClose)

/-- Takes one symbol. -/
def takeSymbol (stack : List Frame) (expecting : Expecting) (symbol : Symbol) :
    Option (List Frame × Expecting) :=
  let begin := fun (s : Symbol) =>
    if depthLimit ≤ stack.length then none
    else
      match s with
      | .openArray => some (.array [] :: stack, .valueOrClose)
      | .openObject => some (.object [] "" :: stack, .keyOrClose)
      | .value v => some (deliver stack v)
      | _ => none
  let give := fun (s : Symbol) =>
    match s with
    | .value v => some (deliver stack v)
    | _ => begin s
  match expecting, symbol with
  | .value, s => give s
  | .valueOrClose, .closeArray =>
      match stack with
      | .array items :: rest => some (deliver rest (.array items.reverse))
      | _ => none
  | .valueOrClose, s => give s
  | .keyOrClose, .closeObject =>
      match stack with
      | .object members _ :: rest => some (deliver rest (.object members.reverse))
      | _ => none
  | .keyOrClose, .value (.text key) => some (stack.drop 1, .colon [] key)
  | .key members, .value (.text key) => some (stack, .colon members key)
  | .colon members key, .colon => some (.object members key :: stack, .value)
  | .commaOrClose, .comma =>
      match stack with
      | .array items :: rest => some (.array items :: rest, .value)
      | .object members _ :: rest => some (rest, .key members)
      | [] => none
  | .commaOrClose, .closeArray =>
      match stack with
      | .array items :: rest => some (deliver rest (.array items.reverse))
      | _ => none
  | .commaOrClose, .closeObject =>
      match stack with
      | .object members _ :: rest => some (deliver rest (.object members.reverse))
      | _ => none
  | _, _ => none

def assemble (stack : List Frame) (expecting : Expecting) : List Symbol → Option Json
  | [] =>
      match expecting with
      | .nothing result => some result
      | _ => none
  | symbol :: rest =>
      (takeSymbol stack expecting symbol).bind fun next => assemble next.1 next.2 rest

/-- The value of a JSON text. -/
def parse? (text : String) : Option Json :=
  (symbolsFrom [] .nothing text.toList).bind (assemble [] .value)

end PipelineServer.Json
