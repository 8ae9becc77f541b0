import PipelineServer.Text.CharClass
import PipelineServer.Text.Position

/-!
Finding the place in a text that an editor position names.

A place is held as the text that follows it. The editor counts columns in UTF-16 code units,
while offsets count UTF-8 bytes.
-/

namespace PipelineServer.Text

/-- UTF-16 code units of one character. -/
def utf16Length (c : Char) : Nat := if c.toNat < 0x10000 then 1 else 2

/-- UTF-16 code units of a text. -/
def utf16Width : List Char → Nat
  | [] => 0
  | c :: rest => utf16Length c + utf16Width rest

/-- UTF-8 bytes of a text. -/
def utf8Width : List Char → Nat
  | [] => 0
  | c :: rest => c.utf8Size + utf8Width rest

theorem utf8Width_append (a b : List Char) : utf8Width (a ++ b) = utf8Width a + utf8Width b := by
  induction a with
  | nil => simp [utf8Width]
  | cons c rest ih => simp [utf8Width, ih, Nat.add_assoc]

/-- What follows the first `n` newlines; nothing if there are fewer. -/
def skipLines? : Nat → List Char → Option (List Char)
  | 0, text => some text
  | _ + 1, [] => none
  | n + 1, c :: rest => if c = '\n' then skipLines? n rest else skipLines? (n + 1) rest

/-- What follows the first characters of the line that have at least `n` code units together, or
all of the line if it is shorter. -/
def skipUnits : Nat → List Char → List Char
  | 0, text => text
  | _ + 1, [] => []
  | n + 1, c :: rest => if c = '\n' then c :: rest else skipUnits (n + 1 - utf16Length c) rest

/-- The text after a position. A column beyond the end of its line means the end of the line; a
line beyond the last one names no place. -/
def after? (text : List Char) (p : Position) : Option (List Char) :=
  (skipLines? p.line text).map (skipUnits p.character)

/-- The part of `text` in front of its tail `rest`. -/
def before (text rest : List Char) : List Char := text.take (text.length - rest.length)

/-- The byte offset of a position. -/
def offset? (text : List Char) (p : Position) : Option Nat :=
  (after? text p).map fun rest => utf8Width (before text rest)

/-- Replaces what lies between two positions. Positions beyond the text mean its end, and an end
in front of the start counts as the start. -/
def splice (text : List Char) (r : Range) (new : List Char) : List Char :=
  let fromStart := (after? text r.start).getD []
  let fromStop := (after? text r.stop).getD []
  let rest := if fromStart.length < fromStop.length then fromStart else fromStop
  before text fromStart ++ new ++ rest

/-- The identifier that ends at a position, empty if the position names no place. -/
def identifierBefore (text : List Char) (p : Position) : List Char :=
  match after? text p with
  | none => []
  | some rest => ((before text rest).reverse.takeWhile isIdentifierChar).reverse

end PipelineServer.Text
