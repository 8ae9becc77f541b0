/-!
Punycode: any characters in letters, digits and hyphens.

The ASCII characters come first, as they are. Then, in the order of their code points, the others
are described by how far each is from the one before it, counted over code points and places. The
distances are numbers of base 36 of varying length, with the least digit first; how long they are
expected to be is learnt on the way.
-/

namespace PipelineServer.Text.Punycode

/-- The number of digits. -/
def base : Nat := 36

/-- The character of a digit. -/
def digitChar (digit : Nat) : Char :=
  if digit < 26 then Char.ofNat (97 + digit) else Char.ofNat (22 + digit)

/-- The digit of a character. -/
def digit? (c : Char) : Option Nat :=
  if 'a' ≤ c && c ≤ 'z' then some (c.toNat - 97)
  else if 'A' ≤ c && c ≤ 'Z' then some (c.toNat - 65)
  else if '0' ≤ c && c ≤ '9' then some (c.toNat - 22)
  else none

/-- Digits below this end a number. It depends on the place of the digit, in steps of 36, and on
what has been learnt. -/
def threshold (place bias : Nat) : Nat :=
  if place ≤ bias then 1 else if bias + 26 ≤ place then 26 else place - bias

theorem one_le_threshold (place bias : Nat) : 1 ≤ threshold place bias := by
  unfold threshold
  split
  · omega
  · split <;> omega

/-- Divides a large distance until it is small, and counts the steps. -/
def shrink (distance steps : Nat) : Nat × Nat :=
  if 455 < distance then shrink (distance / 35) (steps + base) else (distance, steps)
termination_by distance
decreasing_by omega

/-- What is learnt from a distance: the first one is damped most, and `count` characters are there
by now. -/
def adapt (distance count : Nat) (first : Bool) : Nat :=
  let damped := if first then distance / 700 else distance / 2
  let (small, steps) := shrink (damped + damped / count) 0
  steps + base * small / (small + 38)

/-- A number in digits from the given place on. -/
def number (bias place n : Nat) : List Char :=
  let least := threshold place bias
  if n < least then [digitChar n]
  else
    digitChar (least + (n - least) % (base - least)) ::
      number bias (place + base) ((n - least) / (base - least))
termination_by n
decreasing_by
  have hpos := one_le_threshold place bias
  have hdiv := Nat.div_le_self (n - threshold place bias) (base - threshold place bias)
  omega

/-- A text that is being encoded. -/
structure Encoding where
  /-- The numbers so far, in reverse. -/
  written : List Char
  distance : Nat
  bias : Nat
  /-- How many characters have been described. -/
  count : Nat

/-- Passes a character of the text while those with a given code point are described. The first of
all is known by the number of ASCII characters. -/
def Encoding.pass (code ascii : Nat) (s : Encoding) (c : Char) : Encoding :=
  if c.toNat < code then { s with distance := s.distance + 1 }
  else if c.toNat = code then
    { written := (number s.bias base s.distance).reverse ++ s.written
      distance := 0
      bias := adapt s.distance (s.count + 1) (s.count == ascii)
      count := s.count + 1 }
  else s

/-- Describes the characters with the given code points, in increasing order; `code` is the first
that has not been passed. -/
def encodeFrom (text : List Char) (ascii code : Nat) (s : Encoding) : List Nat → List Char
  | [] => s.written.reverse
  | next :: rest =>
      let s := { s with distance := s.distance + (next - code) * (s.count + 1) }
      let s := text.foldl (Encoding.pass next ascii) s
      encodeFrom text ascii (next + 1) { s with distance := s.distance + 1 } rest

/-- Inserts a number into an increasing list, once. -/
def insertCode (code : Nat) : List Nat → List Nat
  | [] => [code]
  | first :: rest =>
      if code < first then code :: first :: rest
      else if code = first then first :: rest
      else first :: insertCode code rest

/-- The first code point that is not ASCII. -/
def firstCode : Nat := 128

/-- The bias before anything is learnt. -/
def firstBias : Nat := 72

/-- The code of a text. -/
def encode (text : List Char) : List Char :=
  let ascii := text.filter fun c => c.toNat < firstCode
  let codes := ((text.map Char.toNat).filter (firstCode ≤ ·)).foldr insertCode []
  ascii ++ (if ascii.isEmpty then [] else ['-']) ++
    encodeFrom text ascii.length firstCode ⟨[], 0, firstBias, ascii.length⟩ codes

/-- A text that is being decoded. -/
structure Decoding where
  text : List Char
  code : Nat := firstCode
  place : Nat := 0
  bias : Nat := firstBias
  /-- Of the number that is being read: its value, what the next digit counts, and its place. -/
  value : Nat := 0
  weight : Nat := 1
  digitPlace : Nat := base

/-- The character of a code point, if there is one. -/
def char? (code : Nat) : Option Char := if code.isValidChar then some (Char.ofNat code) else none

/-- Takes one digit. The last digit of a number inserts a character. -/
def Decoding.take? (s : Decoding) (digit : Nat) : Option Decoding :=
  let least := threshold s.digitPlace s.bias
  let value := s.value + digit * s.weight
  if least ≤ digit then
    some { s with
      value := value
      weight := s.weight * (base - least)
      digitPlace := s.digitPlace + base }
  else
    let count := s.text.length + 1
    let code := s.code + (s.place + value) / count
    let place := (s.place + value) % count
    (char? code).map fun c =>
      { text := s.text.take place ++ c :: s.text.drop place
        code := code
        place := place + 1
        bias := adapt value count (s.place == 0) }

/-- The text of a code; nothing if it is broken. -/
def decode? (code : List Char) : Option (List Char) := do
  let tail := (code.reverse.takeWhile (· != '-')).reverse
  let ascii := code.take (code.length - tail.length - 1)
  if !code.all (fun c => c.toNat < firstCode) then none
  else
    let digits ← (if ascii.isEmpty then code else tail).mapM digit?
    let s ← digits.foldlM Decoding.take? { text := ascii }
    if s.digitPlace = base then some s.text else none

end PipelineServer.Text.Punycode
