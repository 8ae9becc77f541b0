/-!
The shortest decimal of a double.

A double stands for every real number that rounds to it. Of the decimals in that interval, the one
with the fewest digits is taken, and of several with as few digits the nearest to the double.
-/

namespace PipelineServer.Shortest

/-- A power of two. -/
def twoTo (exponent : Nat) : Nat := Nat.pow 2 exponent

/-- A power of ten. -/
def tenTo (exponent : Nat) : Nat := Nat.pow 10 exponent

/-- A positive decimal: `digits` times ten to the power of `exponent`. -/
structure Decimal where
  digits : Nat
  exponent : Int
deriving DecidableEq, Repr

/-- The reals that round to a double, as fractions over one denominator. The ends belong to it if
`closed`. -/
structure Interval where
  lower : Nat
  value : Nat
  upper : Nat
  denominator : Nat
  closed : Bool
deriving DecidableEq, Repr

/-- The interval of the double `mantissa * 2 ^ exponent`. The gap below is half as wide where the
exponent changes. -/
def intervalOf (mantissa : Nat) (exponent : Int) (lowest : Bool) : Interval :=
  let gap := if mantissa = twoTo 52 && !lowest then 1 else 2
  let scale := twoTo (exponent - 2).toNat
  { lower := (4 * mantissa - gap) * scale
    value := 4 * mantissa * scale
    upper := (4 * mantissa + 2) * scale
    denominator := twoTo (2 - exponent).toNat
    closed := mantissa % 2 = 0 }

/-- The least `j` in reach with `numerator * 10 ^ j ≥ denominator`. -/
def shift (numerator denominator : Nat) : Nat → Nat
  | 0 => 0
  | reach + 1 =>
      if denominator ≤ numerator then 0
      else shift (numerator * 10) denominator reach + 1

/-- The power of ten right above the value: the value has this many digits in front of its
decimal point, or as many zeros behind it if negative. -/
def magnitude (i : Interval) : Int :=
  if i.denominator ≤ i.value then (Nat.toDigits 10 (i.value / i.denominator)).length
  else 1 - (shift i.value i.denominator 400 : Nat)

/-- Compares `a * 10 ^ e` with `n / d`, as a pair of natural numbers to compare. -/
def scaled (a : Nat) (e : Int) (n d : Nat) : Nat × Nat :=
  (a * tenTo e.toNat * d, n * tenTo (-e).toNat)

/-- Whether the decimal lies in the interval. -/
def Interval.holds (i : Interval) (d : Decimal) : Bool :=
  let low := scaled d.digits d.exponent i.lower i.denominator
  let high := scaled d.digits d.exponent i.upper i.denominator
  if i.closed then low.2 ≤ low.1 && high.1 ≤ high.2 else low.2 < low.1 && high.1 < high.2

/-- The nearer of two neighbours around the value; the even one if both are as near. -/
def nearer (i : Interval) (below above : Decimal) : Decimal :=
  let a := scaled below.digits below.exponent i.value i.denominator
  let b := scaled above.digits above.exponent i.value i.denominator
  let down := a.2 - a.1
  let up := b.1 - b.2
  if down < up then below
  else if up < down then above
  else if below.digits % 2 = 0 then below else above

/-- The best decimal of `length` digits, if one lies in the interval. -/
def ofLength? (i : Interval) (length : Nat) : Option Decimal :=
  let exponent := magnitude i - length
  let floor := (i.value * tenTo (-exponent).toNat) / (i.denominator * tenTo exponent.toNat)
  let below : Decimal := ⟨floor, exponent⟩
  let above : Decimal := ⟨floor + 1, exponent⟩
  match i.holds below && floor != 0, i.holds above with
  | true, true => some (nearer i below above)
  | true, false => some below
  | false, true => some above
  | false, false => none

/-- The best decimal of at least `length` digits, with `more` further lengths to try. -/
def search (i : Interval) (length : Nat) : Nat → Decimal
  | 0 => (ofLength? i length).getD ⟨0, 0⟩
  | more + 1 => (ofLength? i length).getD (search i (length + 1) more)

/-- Removes zeros at the end of the digits. -/
def trim (d : Decimal) : Nat → Decimal
  | 0 => d
  | fuel + 1 =>
      if d.digits % 10 = 0 && d.digits != 0 then trim ⟨d.digits / 10, d.exponent + 1⟩ fuel else d

/-- The shortest decimal of the finite double with these bits, apart from its sign; nothing for
zero. Seventeen digits are always enough. -/
def ofBits? (bits : UInt64) : Option Decimal :=
  let n : Nat := bits.toNat % twoTo 63
  let field : Nat := n / twoTo 52
  let fraction : Nat := n % twoTo 52
  if n = 0 then none
  else if field = 0 then some (trim (search (intervalOf fraction (-1074) true) 1 16) 20)
  else
    let mantissa := twoTo 52 + fraction
    let exponent : Int := (field : Int) - 1075
    some (trim (search (intervalOf mantissa exponent (decide (field ≤ 1))) 1 16) 20)

/-- The text of a decimal: positional with at least one digit behind the point if the point is
at most sixteen digits behind the first digit or four zeros in front of it, else with an
exponent, which always has a sign. -/
def Decimal.render (d : Decimal) : String :=
  let digits := Nat.toDigits 10 d.digits
  let point : Int := digits.length + d.exponent
  if 0 ≤ d.exponent && point ≤ 16 then
    String.ofList (digits ++ List.replicate d.exponent.toNat '0') ++ ".0"
  else if 0 < point && point ≤ 16 then
    String.ofList (digits.take point.toNat) ++ "." ++ String.ofList (digits.drop point.toNat)
  else if -5 < point && point ≤ 0 then
    "0." ++ String.ofList (List.replicate (-point).toNat '0' ++ digits)
  else
    let tail := digits.drop 1
    String.ofList (digits.take 1) ++ (if tail.isEmpty then "" else "." ++ String.ofList tail) ++
      (if point < 1 then "e" else "e+") ++ toString (point - 1)

/-- The text of the double with these bits. -/
def render (bits : UInt64) : String :=
  let sign := if bits.toNat < twoTo 63 then "" else "-"
  match ofBits? bits with
  | none => sign ++ "0.0"
  | some d => sign ++ d.render

end PipelineServer.Shortest
