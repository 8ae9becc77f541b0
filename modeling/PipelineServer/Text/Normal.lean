import PipelineServer.Text.Composite

/-!
The composed normal form of a text.

Two texts that look the same can be written with different characters: a letter with a mark is one
character or two, and marks of different classes can come in any order. The normal form takes all
composites apart, puts the marks in order, and composes what can be composed.

Some characters can be taken apart and are never composed again. They are not in the tables here:
whoever normalises a text replaces them first.
-/

namespace PipelineServer.Text

namespace Hangul

/-- The code points of the first leading consonant, vowel, trailing consonant and syllable. The one
of the trailing consonants stands for none. -/
def leadBase : Nat := 0x1100

def vowelBase : Nat := 0x1161

def tailBase : Nat := 0x11A7

def syllableBase : Nat := 0xAC00

def leadCount : Nat := 19

def vowelCount : Nat := 21

def tailCount : Nat := 28

def syllableCount : Nat := leadCount * vowelCount * tailCount

/-- The two parts of a syllable: a consonant and a vowel, or a shorter syllable and a consonant. -/
def parts? (code : Nat) : Option (Nat × Nat) :=
  let index := code - syllableBase
  if code < syllableBase || syllableCount ≤ index then none
  else if index % tailCount = 0 then
    some (leadBase + index / (vowelCount * tailCount),
      vowelBase + index % (vowelCount * tailCount) / tailCount)
  else some (code - index % tailCount, tailBase + index % tailCount)

/-- The syllable of two parts. -/
def whole? (first second : Nat) : Option Nat :=
  if leadBase ≤ first && first < leadBase + leadCount && vowelBase ≤ second &&
      second < vowelBase + vowelCount then
    some (syllableBase +
      ((first - leadBase) * vowelCount + (second - vowelBase)) * tailCount)
  else if syllableBase ≤ first && first < syllableBase + syllableCount &&
      (first - syllableBase) % tailCount = 0 && tailBase < second &&
      second < tailBase + tailCount then
    some (first + (second - tailBase))
  else none

end Hangul

/-- The two characters a composite is made of. -/
def parts? (c : Char) : Option (Char × Char) :=
  if c.toNat < 0xC0 then none
  else
    match Hangul.parts? c.toNat with
    | some (first, second) => some (Char.ofNat first, Char.ofNat second)
    | none =>
        (composites.find? fun k => k.whole == c.toNat).map fun k =>
          (Char.ofNat k.first, Char.ofNat k.second)

/-- The composite of two characters. -/
def whole? (first second : Char) : Option Char :=
  match Hangul.whole? first.toNat second.toNat with
  | some code => some (Char.ofNat code)
  | none =>
      (composites.find? fun k => k.first == first.toNat && k.second == second.toNat).map fun k =>
        Char.ofNat k.whole

/-- How often the first part of a composite can be a composite again. -/
def nesting : Nat := 4

/-- Takes a character apart as far as it goes. -/
def takeApart : Nat → Char → List Char
  | 0, c => [c]
  | depth + 1, c =>
      match parts? c with
      | some (first, second) => takeApart depth first ++ [second]
      | none => [c]

/-- Puts a mark in its place among the marks before it, which are in reverse order. Marks of one
class stay in order, and nothing moves past a character that is no mark. -/
def placeMark (c : Char) : List Char → List Char
  | [] => [c]
  | last :: before =>
      if combiningClass c < combiningClass last && combiningClass c != 0 then
        last :: placeMark c before
      else c :: last :: before

/-- All composites taken apart, with the marks in order. -/
def decompose (text : List Char) : List Char :=
  ((text.flatMap (takeApart nesting)).foldl (fun before c => placeMark c before) []).reverse

/-- A text that is being composed: what is finished in reverse, then a character that can take up
marks, then the marks it did not take up, in reverse. -/
structure Composing where
  finished : List Char
  base : Option Char
  marks : List Char

namespace Composing

/-- All of the text so far, in reverse. -/
def written (s : Composing) : List Char := s.marks ++ s.base.toList ++ s.finished

/-- A mark of the same or a higher class keeps `c` from reaching the base. -/
def blocks (s : Composing) (c : Char) : Bool :=
  match s.marks with
  | [] => false
  | last :: _ => combiningClass c ≤ combiningClass last

/-- Takes a character without composing it. -/
def append (s : Composing) (c : Char) : Composing :=
  if combiningClass c = 0 then ⟨s.written, some c, []⟩
  else
    match s.base with
    | some _ => { s with marks := c :: s.marks }
    | none => { s with finished := c :: s.finished }

/-- Takes one character. -/
def take (s : Composing) (c : Char) : Composing :=
  match s.base with
  | none => s.append c
  | some base =>
      if s.blocks c then s.append c
      else
        match whole? base c with
        | some composite => { s with base := some composite }
        | none => s.append c

end Composing

/-- Composes a decomposed text. -/
def compose (text : List Char) : List Char :=
  (text.foldl Composing.take ⟨[], none, []⟩).written.reverse

/-- The composed normal form of a text. -/
def normalize (text : List Char) : List Char := compose (decompose text)

end PipelineServer.Text
