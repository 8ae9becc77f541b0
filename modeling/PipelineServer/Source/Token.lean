import PipelineServer.Source.Span

/-!
What a source text holds apart from its words: delimiters in code, and literals and comments that
do not end.

The scan knows comments, strings and triple-quoted strings only as stretches to pass over.
-/

namespace PipelineServer.Source

/-- A finding of the scan. -/
inductive Token
  /-- A delimiter outside strings and comments. -/
  | delimiter (c : Char) (spot : Spot)
  /-- A string that begins at `start` and is cut off at `stop`. -/
  | openText (start stop : Spot)
  /-- A block comment that begins at `start` and has no end. -/
  | openComment (start : Spot)
deriving DecidableEq, Repr

/-- What the scan is inside of. -/
inductive Mode
  | code
  | lineComment
  | blockComment (start : Spot)
  | text (quote : Char) (triple : Bool) (start : Spot)
deriving DecidableEq, Repr

def isOpener (c : Char) : Bool := c == '\x7b' || c == '(' || c == '['

def isCloser (c : Char) : Bool := c == '\x7d' || c == ')' || c == ']'

def isDelimiter (c : Char) : Bool := isOpener c || isCloser c

def isQuote (c : Char) : Bool := c == '\'' || c == '"'

/-- Whether `rest` continues a quote to three. -/
def twoMore (quote : Char) : List Char → Bool
  | a :: b :: _ => a == quote && b == quote
  | _ => false

/-- What is left open at the end of the text. -/
def Mode.leftOpen (mode : Mode) (stop : Spot) : List Token :=
  match mode with
  | .code | .lineComment => []
  | .blockComment start => [.openComment start]
  | .text _ _ start => [.openText start stop]

/-- Scans a text from a place on; the next `skip` characters have been looked at already.

In code, `//` begins a comment up to the newline, a slash and a star one up to the next star and
slash, and a quote a string; three equal quotes begin a string that ends at the next three. A
backslash in a string passes over the character behind it. A newline cuts off a string in single
quotes, and the scan goes on in code. -/
def scan (mode : Mode) (skip : Nat) (spot : Spot) : List Char → List Token
  | [] => mode.leftOpen spot
  | c :: rest =>
      let behind := spot.next c
      match skip with
      | skip + 1 => scan mode skip behind rest
      | 0 =>
          match mode with
          | .code =>
              if isQuote c then
                if twoMore c rest then scan (.text c true spot) 2 behind rest
                else scan (.text c false spot) 0 behind rest
              else if isDelimiter c then .delimiter c spot :: scan .code 0 behind rest
              else if c = '/' ∧ rest.head? = some '/' then scan .lineComment 1 behind rest
              else if c = '/' ∧ rest.head? = some '*' then scan (.blockComment spot) 1 behind rest
              else scan .code 0 behind rest
          | .lineComment => scan (if c = '\n' then .code else .lineComment) 0 behind rest
          | .blockComment start =>
              if c = '*' ∧ rest.head? = some '/' then scan .code 1 behind rest
              else scan (.blockComment start) 0 behind rest
          | .text quote triple start =>
              if c = '\\' then scan (.text quote triple start) 1 behind rest
              else if c = quote ∧ triple = false then scan .code 0 behind rest
              else if c = quote ∧ twoMore quote rest then scan .code 2 behind rest
              else if c = '\n' ∧ triple = false then
                .openText start spot :: scan .code 0 behind rest
              else scan (.text quote triple start) 0 behind rest

@[simp] theorem scan_nil (mode : Mode) (skip : Nat) (spot : Spot) :
    scan mode skip spot [] = mode.leftOpen spot := by
  rw [scan]

/-- The findings of a whole text, in the order in which they come up. -/
def tokens (text : List Char) : List Token := scan .code 0 .first text

end PipelineServer.Source
