import PipelineServer.Json.Shortest

/-!
Numbers of a JSON text.

A numeral without fraction and exponent is an integer as long as it fits in 64 bits; every other
numeral is a double. Digits beyond what 64 bits hold do not add to a double.
-/

namespace PipelineServer

/-- A number as it was written: an integer, or a double by its bits. -/
inductive Number
  | integer (value : Int)
  | double (bits : UInt64)
deriving DecidableEq, Repr

namespace Number

/-- The largest integer that is kept exactly. -/
def maxInteger : Nat := 18446744073709551615

/-- The largest integer whose negative is kept exactly. -/
def maxNegative : Nat := 9223372036854775808

/-- A numeral taken apart into digits. -/
structure Numeral where
  negative : Bool
  whole : List Char
  fraction : List Char
  hasFraction : Bool
  exponentNegative : Bool
  exponent : List Char
  hasExponent : Bool
deriving DecidableEq, Repr

def digitValue (c : Char) : Nat := c.toNat - 48

/-- Digits at the start, and the rest. -/
def splitDigits (text : List Char) : List Char × List Char :=
  (text.takeWhile Char.isDigit, text.dropWhile Char.isDigit)

/-- Takes a numeral apart: no leading zeros, and digits on both sides of a point and behind an
exponent mark. -/
def numeral? (text : List Char) : Option Numeral :=
  let (negative, text) :=
    match text with
    | '-' :: rest => (true, rest)
    | _ => (false, text)
  let (whole, text) := splitDigits text
  let (hasFraction, fraction, text) :=
    match text with
    | '.' :: rest => (true, splitDigits rest)
    | _ => (false, [], text)
  let (hasExponent, exponentNegative, text) :=
    match text with
    | e :: '-' :: rest => if e == 'e' || e == 'E' then (true, true, rest) else (false, false, text)
    | e :: '+' :: rest => if e == 'e' || e == 'E' then (true, false, rest) else (false, false, text)
    | e :: rest => if e == 'e' || e == 'E' then (true, false, rest) else (false, false, text)
    | [] => (false, false, text)
  let (exponent, text) := if hasExponent then splitDigits text else ([], text)
  let wholeFits :=
    match whole with
    | [] => false
    | '0' :: more => more.isEmpty
    | _ => true
  if text.isEmpty && wholeFits && (!hasFraction || !fraction.isEmpty) &&
      (!hasExponent || !exponent.isEmpty) then
    some ⟨negative, whole, fraction, hasFraction, exponentNegative, exponent, hasExponent⟩
  else none

/-- Reads digits into an integer of 64 bits; counts the digits from the first that does not fit. -/
def readWhole (digits : List Char) : Nat × Nat :=
  digits.foldl (fun (n, dropped) c =>
    if dropped = 0 && n * 10 + digitValue c ≤ maxInteger then (n * 10 + digitValue c, 0)
    else (n, dropped + 1)) (0, 0)

/-- Appends the digits of a fraction as long as they fit; counts those taken. -/
def readFraction (n : Nat) (taken : Nat) : List Char → Nat × Nat
  | [] => (n, taken)
  | c :: rest =>
      if n * 10 + digitValue c ≤ maxInteger then
        readFraction (n * 10 + digitValue c) (taken + 1) rest
      else (n, taken)

/-- A power of ten as a double. -/
def powerOfTen (e : Nat) : Float := Float.ofScientific 1 false e

/-- Divides by a power of ten, in steps if it is too large for a double. After three steps nothing
is left. -/
def scaleDown (f : Float) (e : Nat) : Nat → Float
  | 0 => f
  | steps + 1 =>
      if e ≤ 308 then f / powerOfTen e
      else if f == 0 then f
      else scaleDown (f / powerOfTen 308) (e - 308) steps

/-- The double nearest in two roundings to `significand * 10 ^ exponent`; nothing if it is too
large. -/
def scale? (significand : Nat) (exponent : Int) : Option Float :=
  let f := (UInt64.ofNat significand).toFloat
  if exponent < 0 then some (scaleDown f exponent.natAbs 8)
  else if 308 < exponent then (if significand = 0 then some f else none)
  else
    let scaled := f * powerOfTen exponent.toNat
    if scaled.isInf then none else some scaled

/-- The largest exponent a numeral may have. -/
def maxExponent : Nat := 2147483647

/-- The double of a numeral; nothing if it is too large. -/
def double? (n : Numeral) : Option Number :=
  let (whole, dropped) := readWhole n.whole
  let (significand, taken) := readFraction whole 0 n.fraction
  let exponent := n.exponent.foldl (fun e c => e * 10 + digitValue c) 0
  let magnitude :=
    if maxExponent < exponent then
      if significand = 0 || n.exponentNegative then some 0.0 else none
    else
      let e : Int := if n.exponentNegative then -exponent else exponent
      scale? significand (dropped - taken + e)
  magnitude.map fun f => .double (if n.negative then -f else f).toBits

/-- Reads a numeral; nothing if it is malformed or too large. -/
def read? (text : List Char) : Option Number :=
  (numeral? text).bind fun n =>
    let (whole, dropped) := readWhole n.whole
    if n.hasFraction || n.hasExponent || dropped != 0 then double? n
    else if !n.negative then some (.integer whole)
    else if whole = 0 || maxNegative < whole then double? n
    else some (.integer (-whole))

/-- The text of a number. -/
def render : Number → String
  | .integer value => toString value
  | .double bits => Shortest.render bits

end Number

end PipelineServer
