import PipelineServer.Text.Direction
import PipelineServer.Text.Joining
import PipelineServer.Text.Normal
import PipelineServer.Text.Punycode
import PipelineServer.Uri.Mapping

/-!
Domain names in ASCII.

A name is brought to its plainest form, cut into labels at the dots, and each label with other than
ASCII characters is written in Punycode behind `xn--`. Labels that are already written so must stand
for a text that could have been written.
-/

namespace PipelineServer.Uri.Domain

open Text

/-- Characters that have a meaning elsewhere in a uri, or none anywhere. -/
def isDenied (c : Char) : Bool :=
  c.toNat ≤ 0x20 || c.toNat = 0x7F ||
    ['%', '#', '/', ':', '<', '>', '?', '@', '[', '\\', ']', '^', '|'].contains c

def isAscii (label : List Char) : Bool := label.all fun c => c.toNat < 0x80

/-- A character in its plainest form; nothing if it is refused. -/
def plain? (c : Char) : Option (List Char) :=
  if c.toNat < 0x80 then some [c.toLower]
  else
    match treatment c with
    | .kept => some [c]
    | .replaced text => some text
    | .refused => none

/-- A name in its plainest form. -/
def plainName? (name : List Char) : Option (List Char) := do
  let pieces ← name.mapM plain?
  let plain := if isAscii name then pieces.flatten else normalize pieces.flatten
  if plain.any isDenied then none else some plain

/-- Cuts a name at the dots. -/
def splitDots : List Char → List (List Char)
  | [] => [[]]
  | c :: rest =>
      match splitDots rest with
      | [] => [[c]]
      | label :: labels => if c = '.' then [] :: label :: labels else (c :: label) :: labels

/-- A label and the text it stands for. -/
structure Label where
  written : List Char
  meant : List Char
deriving DecidableEq, Repr

/-- What stands before Punycode. -/
def mark : List Char := "xn--".toList

/-- The characters that keep letters from joining, and that make them join. -/
def nonJoiner : Char := Char.ofNat 0x200C

def joiner : Char := Char.ofNat 0x200D

/-- The combining class of marks that take the vowel from a consonant. -/
def viramaClass : Nat := 9

/-- Whether a joiner makes sense between the text before it, in reverse, and the text after it. It
does behind a virama; one that keeps letters from joining also does where they would have joined. -/
def joinerFits (c : Char) (before after : List Char) : Bool :=
  match before with
  | [] => false
  | last :: _ =>
      combiningClass last == viramaClass ||
        (c == nonJoiner &&
          ((before.dropWhile isTransparent).head?.any joinsForward) &&
          ((after.dropWhile isTransparent).head?.any joinsBackward))

/-- Whether every joiner of a text makes sense; `before` is in reverse. -/
def joinersFit (before : List Char) : List Char → Bool
  | [] => true
  | c :: rest =>
      (!(c == nonJoiner || c == joiner) || joinerFits c before rest) &&
        joinersFit (c :: before) rest

/-- Whether a label can stand for a text: it does not begin with a mark, and its joiners make
sense. -/
def isMeaningful (text : List Char) : Bool :=
  isAscii text || (!(text.head?.any markRanges.contains) && joinersFit [] text)

/-- The largest number of characters that are written in Punycode. -/
def encodeLimit : Nat := 1000

/-- The largest number of characters that are read as Punycode. -/
def decodeLimit : Nat := 2000

/-- The text that a Punycode label stands for. It must be in its plainest form, and have a character
that needed Punycode. -/
def decodeLabel? (code : List Char) : Option (List Char) := do
  if code.isEmpty || code.getLast? = some '-' || decodeLimit < code.length then none
  else
    let text ← Punycode.decode? code
    let keeps := fun c : Char => c.toNat < 0x80 || treatment c == .kept
    if text.all keeps && normalize text == text then some text else none

/-- A label of a plain name. -/
def label? (text : List Char) : Option Label := do
  if mark.isPrefixOf text then
    let meant ← decodeLabel? (text.drop mark.length)
    if isMeaningful meant then some ⟨text, meant⟩ else none
  else if !isMeaningful text then none
  else if isAscii text then some ⟨text, text⟩
  else if encodeLimit < text.length then none
  else some ⟨mark ++ Punycode.encode text, text⟩

/-- Whether a character runs from right to left. -/
def runsLeft (d : Direction) : Bool :=
  d == .rightToLeft || d == .arabicLetter || d == .arabicNumber

/-- What can stand inside a label in either direction. -/
def isWeak (d : Direction) : Bool :=
  [.europeanNumber, .europeanSeparator, .commonSeparator, .europeanTerminator, .neutral, .boundary,
    .nonspacingMark].contains d

/-- Whether a label can be read in one way only: it begins with a letter, which gives its direction,
holds nothing of the other direction, and ends in a letter or digit that keeps the direction. From
right to left, digits are of one kind. -/
def isReadable (text : List Char) : Bool :=
  let directions := text.map Direction.of
  let last := (directions.reverse.dropWhile (· == .nonspacingMark)).head?
  match directions with
  | [] => true
  | .leftToRight :: _ =>
      directions.all (fun d => d == .leftToRight || isWeak d) &&
        last.any (fun d => d == .leftToRight || d == .europeanNumber)
  | .rightToLeft :: _ | .arabicLetter :: _ =>
      directions.all (fun d => runsLeft d || isWeak d) &&
        last.any (fun d => runsLeft d || d == .europeanNumber) &&
        !(directions.contains .europeanNumber && directions.contains .arabicNumber)
  | _ => false

/-- A domain name in ASCII; nothing if it cannot be one. If one label runs from right to left, all
must be readable. -/
def toAscii? (name : List Char) : Option (List Char) := do
  let labels ← (splitDots (← plainName? name)).mapM label?
  let bothWays := labels.any fun l => l.meant.any fun c => runsLeft (Direction.of c)
  if bothWays && !labels.all (fun l => isReadable l.meant) then none
  else some (['.'].intercalate (labels.map Label.written))

end PipelineServer.Uri.Domain
