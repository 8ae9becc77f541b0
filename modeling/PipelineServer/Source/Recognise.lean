import PipelineServer.Source.Declaration
import PipelineServer.Text.CharClass

/-!
Recognising a declaration at the start of a line.

A line declares at most one thing. It is read from the left: blanks and modifiers, then a keyword
or a type, then the name, and for members what follows the name. No two readings of a line agree,
so nothing is ever tried twice.
-/

namespace PipelineServer.Source

open PipelineServer.Text

/-- A declaration found in a line: the name with the column of its first character, counted from
one. -/
structure Found where
  name : List Char
  column : Nat
  kind : Kind
  detail : Option (List Char) := none
deriving DecidableEq, Repr

/-- Reads words of `allowed`, each followed by blanks. `word` is the reverse of the current word
so far and `start` the text from its first character on. -/
def modifiersFrom (allowed : List String) (word start : List Char) :
    List Char → List String × List Char
  | [] => ([], start)
  | c :: rest =>
      if isBlank c then
        if word.isEmpty then modifiersFrom allowed [] rest rest
        else if allowed.contains (String.ofList word.reverse) then
          let more := modifiersFrom allowed [] rest rest
          (String.ofList word.reverse :: more.1, more.2)
        else ([], start)
      else modifiersFrom allowed (c :: word) start rest

/-- The modifiers at the start of a line, and the text behind them without leading blanks. -/
def modifiers (allowed : List String) (line : List Char) : List String × List Char :=
  modifiersFrom allowed [] line line

/-- The text behind at least one blank. -/
def blanks? : List Char → Option (List Char)
  | c :: rest => if isBlank c then some (rest.dropWhile isBlank) else none
  | [] => none

/-- A word, and the text behind the blanks that must follow it. -/
def word? (text : List Char) : Option (String × List Char) :=
  (blanks? (text.dropWhile fun c => !isBlank c)).map fun rest =>
    (String.ofList (text.takeWhile fun c => !isBlank c), rest)

/-- A name, and the text behind it. -/
def name? : List Char → Option (List Char × List Char)
  | c :: rest =>
      if isNameStart c then some (c :: rest.takeWhile isWord, rest.dropWhile isWord) else none
  | [] => none

/-- The type arguments at the start of a text, up to the first `>`. -/
def typeArguments : List Char → List Char
  | '<' :: rest =>
      if rest.contains '>' then '<' :: rest.takeWhile (· != '>') ++ ['>'] else []
  | _ => []

/-- A pair of brackets at the start of a text. -/
def arrayMark : List Char → List Char
  | '[' :: ']' :: _ => ['[', ']']
  | _ => []

/-- The length of the type at the start of a text: a capitalised name with type arguments and
brackets, or one of the `primitives`. -/
def typeLength? (primitives : List String) (text : List Char) : Option Nat :=
  match text with
  | [] => none
  | c :: _ =>
      if c.isUpper then
        let name := (text.takeWhile isWord).length
        let arguments := (typeArguments (text.drop name)).length
        some (name + arguments + (arrayMark (text.drop (name + arguments))).length)
      else
        let word := text.takeWhile fun c => !isBlank c
        if primitives.contains (String.ofList word) then some word.length else none

/-- A type, and the text behind the blanks that must follow it. -/
def type? (primitives : List String) (text : List Char) : Option (List Char × List Char) :=
  (typeLength? primitives text).bind fun length =>
    (blanks? (text.drop length)).map fun rest => (text.take length, rest)

/-- Whether an argument list follows. -/
def opensArguments (text : List Char) : Bool := (text.dropWhile isBlank).head? == some '('

/-- Whether the declaration ends or a value follows. -/
def endsOrAssigns (text : List Char) : Bool :=
  match text.dropWhile isBlank with
  | [] => true
  | c :: _ => c == '=' || c == ';'

/-- Reads a name of the line at the start of `text`, if what follows it is as `after` asks. -/
def named? (line text : List Char) (kind : Kind) (detail : Option (List Char))
    (after : List Char → Bool) : Option Found :=
  match name? text with
  | some (name, rest) =>
      if after rest then some ⟨name, line.length - text.length + 1, kind, detail⟩ else none
  | none => none

def typeModifiers : List String :=
  ["public", "protected", "private", "static", "abstract", "final"]

def methodModifiers : List String :=
  ["public", "protected", "private", "static", "final", "synchronized", "abstract"]

def fieldModifiers : List String := ["public", "protected", "private", "static", "final"]

def visibilities : List String := ["public", "protected", "private"]

def valueTypes : List String :=
  ["boolean", "int", "long", "double", "float", "char", "byte", "short"]

def returnTypes : List String := "void" :: valueTypes

/-- The kind of type a keyword declares. -/
def typeKeyword? (word : String) : Option Kind :=
  if word = "class" then some .classType
  else if word = "interface" ∨ word = "trait" then some .interfaceType
  else if word = "enum" then some .enumType
  else none

/-- A class, interface, trait or enumeration. -/
def typeDeclaration? (line : List Char) : Option Found :=
  (word? (modifiers typeModifiers line).2).bind fun (word, text) =>
    (typeKeyword? word).bind fun kind => named? line text kind none fun _ => true

/-- A block that `keyword` and a name begin. -/
def block? (keyword : String) (kind : Kind) (line : List Char) : Option Found :=
  (word? (modifiers [] line).2).bind fun (word, text) =>
    if word = keyword then named? line text kind none fun _ => true else none

/-- A name after `def`. -/
def untyped? (allowed : List String) (kind : Kind) (after : List Char → Bool)
    (line : List Char) : Option Found :=
  (word? (modifiers allowed line).2).bind fun (word, text) =>
    if word = "def" then named? line text kind none after else none

/-- A method with a return type. -/
def typedMethod? (line : List Char) : Option Found :=
  (type? returnTypes (modifiers methodModifiers line).2).bind fun (type, text) =>
    named? line text .method (some type) opensArguments

/-- The kind of a variable with a type: in the body of a type it is a field if its visibility is
given, else a property. -/
def typedKind (inBody : Bool) (given : List String) : Kind :=
  if !inBody then .var
  else if given.any visibilities.contains then .field
  else .property

/-- A variable with a type. -/
def typedVariable? (inBody : Bool) (line : List Char) : Option Found :=
  let head := modifiers fieldModifiers line
  (type? valueTypes head.2).bind fun (type, text) =>
    named? line text (typedKind inBody head.1) (some type) endsOrAssigns

/-- The declaration of a line; `inBody` tells whether the line stands directly in the body of a
type. -/
def recognise (inBody : Bool) (line : List Char) : Option Found :=
  typeDeclaration? line
  <|> block? "process" .process line
  <|> block? "workflow" .workflow line
  <|> untyped? methodModifiers .method opensArguments line
  <|> typedMethod? line
  <|> untyped? fieldModifiers (if inBody then .property else .var) endsOrAssigns line
  <|> typedVariable? inBody line

end PipelineServer.Source
