/-!
Text as UTF-8 bytes.

Reading never fails: bytes that are not part of a character are replaced, one replacement
character for every longest stretch that could still have begun one.
-/

namespace PipelineServer.Text

/-- The bytes of a text. -/
def encodeUtf8 (text : String) : List UInt8 := text.toUTF8.toList

/-- The text of a byte sequence, if it is well formed. -/
def decodeUtf8? (bytes : List UInt8) : Option String := String.fromUTF8? ⟨bytes.toArray⟩

/-- What stands for bytes that are no character. -/
def replacement : Char := Char.ofNat 0xFFFD

/-- A stretch of a byte sequence: a character, or bytes that could have begun one and did not. -/
inductive Piece
  | character (c : Char)
  | broken (bytes : List UInt8)
deriving DecidableEq, Repr

/-- A character of which some bytes are still missing: the bytes so far in reverse, their bits, how
many bytes follow, and the bounds of the next one. -/
structure Pending where
  bytes : List UInt8
  bits : Nat
  missing : Nat
  lower : UInt8
  upper : UInt8
deriving DecidableEq, Repr

/-- What a byte means at the start of a character. -/
inductive Lead
  | complete (c : Char)
  | opens (pending : Pending)
  | invalid
deriving DecidableEq, Repr

/-- Reads the first byte of a character. The bounds on the second byte keep out overlong forms,
surrogates and values beyond the last code point. -/
def lead (b : UInt8) : Lead :=
  if b < 0x80 then .complete (Char.ofNat b.toNat)
  else if b < 0xC2 then .invalid
  else if b < 0xE0 then .opens ⟨[b], b.toNat - 0xC0, 1, 0x80, 0xBF⟩
  else if b < 0xF0 then
    .opens ⟨[b], b.toNat - 0xE0, 2, if b = 0xE0 then 0xA0 else 0x80,
      if b = 0xED then 0x9F else 0xBF⟩
  else if b < 0xF5 then
    .opens ⟨[b], b.toNat - 0xF0, 3, if b = 0xF0 then 0x90 else 0x80,
      if b = 0xF4 then 0x8F else 0xBF⟩
  else .invalid

/-- The stretch that an unfinished character leaves. -/
def Pending.piece (p : Pending) : Piece := .broken p.bytes.reverse

/-- Takes a byte at the start of a character; `read` is the reverse of what has been read. -/
def begin (read : List Piece) (b : UInt8) : List Piece × Option Pending :=
  match lead b with
  | .complete c => (.character c :: read, none)
  | .opens pending => (read, some pending)
  | .invalid => (.broken [b] :: read, none)

/-- Takes one byte. -/
def takeByte (read : List Piece) (pending : Option Pending) (b : UInt8) :
    List Piece × Option Pending :=
  match pending with
  | none => begin read b
  | some p =>
      if p.lower ≤ b && b ≤ p.upper then
        let bits := p.bits * 64 + (b.toNat - 0x80)
        if p.missing ≤ 1 then (.character (Char.ofNat bits) :: read, none)
        else (read, some ⟨b :: p.bytes, bits, p.missing - 1, 0x80, 0xBF⟩)
      else begin (p.piece :: read) b

def piecesFrom (read : List Piece) (pending : Option Pending) : List UInt8 → List Piece
  | [] => ((pending.map Pending.piece).toList ++ read).reverse
  | b :: rest =>
      let next := takeByte read pending b
      piecesFrom next.1 next.2 rest

/-- Cuts a byte sequence into characters and what is between them. -/
def pieces (bytes : List UInt8) : List Piece := piecesFrom [] none bytes

/-- The character that shows for a stretch. -/
def Piece.shown : Piece → Char
  | .character c => c
  | .broken _ => replacement

/-- The text of a byte sequence, with replacements for what is not well formed. -/
def decodeLossy (bytes : List UInt8) : String := String.ofList ((pieces bytes).map Piece.shown)

end PipelineServer.Text
