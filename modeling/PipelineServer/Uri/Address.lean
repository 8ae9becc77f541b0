import PipelineServer.Text.Hex

/-!
Hosts that are given by a number.

An address of 32 bits is written as up to four numbers with dots between them, in several bases; one
of 128 bits as groups of hexadecimal digits in brackets. Both have one normal form.
-/

namespace PipelineServer.Uri

/-- Cuts a text at every `mark`. -/
def cutAt (mark : Char) : List Char → List (List Char)
  | [] => [[]]
  | c :: rest =>
      match cutAt mark rest with
      | [] => [[c]]
      | piece :: pieces => if c = mark then [] :: piece :: pieces else (c :: piece) :: pieces

namespace Ipv4

/-- Digits in a base up to sixteen. -/
def digits? (base : Nat) (text : List Char) : Option Nat :=
  text.foldlM (fun n c =>
    match Text.hexValue? c with
    | some digit => if digit < base then some (n * base + digit) else none
    | none => none) 0

/-- One number: hexadecimal behind `0x`, octal behind `0`, else decimal. Nothing more behind these
marks means zero. -/
def number? : List Char → Option Nat
  | [] => none
  | '0' :: 'x' :: rest | '0' :: 'X' :: rest => digits? 16 rest
  | '0' :: c :: rest => digits? 8 (c :: rest)
  | text => digits? 10 text

/-- The numbers of a name; a dot at the end does not count. -/
def parts (name : List Char) : List (List Char) :=
  let pieces := cutAt '.' name
  if pieces.getLast? = some [] then pieces.dropLast else pieces

/-- Whether a name can only be an address, because its last part is a number. -/
def endsInNumber (name : List Char) : Bool :=
  match (parts name).getLast? with
  | some last => (!last.isEmpty && last.all Char.isDigit) || (number? last).isSome
  | none => false

/-- What bytes stand for from the given place on. -/
def highBytes (place : Nat) : List Nat → Nat
  | [] => 0
  | n :: rest => n * Nat.pow 256 place + highBytes (place - 1) rest

/-- The address of up to four numbers: all but the last are one byte each, the last one fills what
is left. -/
def address? (numbers : List Nat) : Option Nat :=
  let high := numbers.dropLast
  match numbers.getLast? with
  | none => none
  | some last =>
      if 3 < high.length || high.any (255 < ·) || Nat.pow 256 (4 - high.length) ≤ last then none
      else some (highBytes 3 high + last)

/-- Reads an address. -/
def parse? (name : List Char) : Option Nat := do address? (← (parts name).mapM number?)

/-- An address as four decimal numbers. -/
def render (address : Nat) : List Char :=
  let byte := fun place : Nat => Nat.toDigits 10 (address / Nat.pow 256 place % 256)
  byte 3 ++ '.' :: byte 2 ++ '.' :: byte 1 ++ '.' :: byte 0

end Ipv4

namespace Ipv6

/-- A group of one to four hexadecimal digits. -/
def group? (text : List Char) : Option Nat :=
  if text.isEmpty || 4 < text.length then none else Ipv4.digits? 16 text

/-- A byte in decimal, without zeros in front. -/
def byte? : List Char → Option Nat
  | [] => none
  | '0' :: _ :: _ => none
  | text =>
      match Ipv4.digits? 10 text with
      | some n => if n ≤ 255 then some n else none
      | none => none

/-- Two groups given as four bytes with dots between them. -/
def quad? (text : List Char) : Option (List Nat) := do
  match ← (cutAt '.' text).mapM byte? with
  | [a, b, c, d] => some [a * 256 + b, c * 256 + d]
  | _ => none

/-- Groups with colons between them. Only at the end of an address can two of them be given as
bytes. -/
def groups? (final : Bool) : List (List Char) → Option (List Nat)
  | [] => some []
  | [last] =>
      if final && last.contains '.' then quad? last else (group? last).map fun n => [n]
  | text :: rest => do some ((← group? text) :: (← groups? final rest))

/-- The part of an address before or after the groups left out. -/
def side? (final : Bool) (text : List Char) : Option (List Nat) :=
  if text.isEmpty then some [] else groups? final (cutAt ':' text)

/-- Cuts a text at the first two colons, if there are two in a row. -/
def cutDouble : List Char → Option (List Char × List Char)
  | ':' :: ':' :: rest => some ([], rest)
  | c :: rest => (cutDouble rest).map fun (before, after) => (c :: before, after)
  | [] => none

/-- Reads an address of eight groups. Two colons stand for all groups that are missing. -/
def parse? (text : List Char) : Option (List Nat) := do
  match cutDouble text with
  | some (before, after) =>
      let first ← side? false before
      let last ← side? true after
      if 7 < first.length + last.length then none
      else some (first ++ List.replicate (8 - first.length - last.length) 0 ++ last)
  | none =>
      let groups ← groups? true (cutAt ':' text)
      if groups.length = 8 then some groups else none

/-- The longest run of zeros and where it starts; of equal ones the first. -/
def longestRun (groups : List Nat) : Nat × Nat :=
  (List.range groups.length).foldl (fun best start =>
    let length := ((groups.drop start).takeWhile (· == 0)).length
    if best.2 < length then (start, length) else best) (0, 0)

/-- Groups with colons between them. -/
def renderGroups (groups : List Nat) : List Char :=
  [':'].intercalate (groups.map (Nat.toDigits 16))

/-- An address in brackets. The longest run of zeros is left out, if it has two at least. -/
def render (groups : List Nat) : List Char :=
  let (start, length) := longestRun groups
  let inner :=
    if length < 2 then renderGroups groups
    else
      renderGroups (groups.take start) ++ [':', ':'] ++ renderGroups (groups.drop (start + length))
  '[' :: inner ++ [']']

end Ipv6

end PipelineServer.Uri
