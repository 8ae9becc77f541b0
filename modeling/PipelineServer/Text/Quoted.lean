import PipelineServer.Text.CharClass
import PipelineServer.Text.Format
import PipelineServer.Text.Unassigned
import PipelineServer.Text.Utf8

/-!
Quoted text for logs: every character that would not show is written as an escape.
-/

namespace PipelineServer.Text

/-- Code points that are left to private agreement. -/
def privateRanges : CodeRanges :=
  [(0xE000, 0xF8FF), (0xF0000, 0xFFFFD), (0x100000, 0x10FFFD)]

/-- Letters that take up space and show nothing. -/
def fillerRanges : CodeRanges := [(0x115F, 0x1160), (0x3164, 0x3164), (0xFFA0, 0xFFA0)]

/-- Whether a character shows as itself. Controls, formats, fillers, blanks other than the space,
and private and unassigned code points do not. -/
def isPrintable (c : Char) : Bool :=
  if c.toNat < 0x80 then 0x20 ≤ c.toNat && c.toNat < 0x7F
  else !(c.toNat < 0xA0 || isBlank c || formatRanges.contains c || fillerRanges.contains c ||
    privateRanges.contains c || unassignedRanges.contains c)

/-- A character by its code point, in lowercase hexadecimal. -/
def codeEscape (c : Char) : String :=
  "\\u\x7b" ++ String.ofList (Nat.toDigits 16 c.toNat) ++ "\x7d"

/-- One character inside quotes. -/
def escapeChar (c : Char) : String :=
  if c = '\x00' then "\\0"
  else if c = '\t' then "\\t"
  else if c = '\r' then "\\r"
  else if c = '\n' then "\\n"
  else if c = '"' then "\\\""
  else if c = '\\' then "\\\\"
  else if extendRanges.contains c || !isPrintable c then codeEscape c
  else c.toString

/-- A text in double quotes. -/
def quote (text : String) : String :=
  "\"" ++ String.join (text.toList.map escapeChar) ++ "\""

/-- A byte by its number, in two hexadecimal digits. -/
def byteEscape (b : UInt8) : String :=
  let digit := fun n : Nat => (Nat.toDigits 16 n).map Char.toUpper
  String.ofList ('\\' :: 'x' :: (digit (b.toNat / 16) ++ digit (b.toNat % 16)))

/-- A stretch of a byte sequence inside quotes. -/
def escapePiece : Piece → String
  | .character c => escapeChar c
  | .broken bytes => String.join (bytes.map byteEscape)

/-- A byte sequence in double quotes. -/
def quoteBytes (bytes : List UInt8) : String :=
  "\"" ++ String.join ((pieces bytes).map escapePiece) ++ "\""

end PipelineServer.Text
