import PipelineServer.Text.Alphabetic
import PipelineServer.Text.Mark
import PipelineServer.Text.Numeral
import PipelineServer.Text.Recent

/-!
The character classes that decide where words and names end.
-/

namespace PipelineServer.Text

/-- Characters with the Unicode property White_Space. -/
def blankRanges : CodeRanges :=
  [(0x9, 0xD), (0x20, 0x20), (0x85, 0x85), (0xA0, 0xA0), (0x1680, 0x1680), (0x2000, 0x200A),
   (0x2028, 0x2029), (0x202F, 0x202F), (0x205F, 0x205F), (0x3000, 0x3000)]

/-- Punctuation that joins words (category Pc), and the two zero-width joiners. -/
def connectorRanges : CodeRanges :=
  [(0x5F, 0x5F), (0x200C, 0x200D), (0x203F, 0x2040), (0x2054, 0x2054), (0xFE33, 0xFE34),
   (0xFE4D, 0xFE4F), (0xFF3F, 0xFF3F)]

/-- White space of any script. -/
def isBlank (c : Char) : Bool := blankRanges.contains c

/-- Word characters: letters, marks, decimal digits and connectors of any script. Words are cut as
in Unicode version 16, so characters that came later are not part of them. -/
def isWord (c : Char) : Bool :=
  if c.toNat < 0x80 then c.isAlphanum || c == '_'
  else (alphabeticRanges.contains c || markRanges.contains c || decimalRanges.contains c ||
    connectorRanges.contains c) && !recentRanges.contains c

/-- Letters and numbers of any script. -/
def isAlphanumeric (c : Char) : Bool :=
  if c.toNat < 0x80 then c.isAlphanum
  else alphabeticRanges.contains c || decimalRanges.contains c || otherNumberRanges.contains c

/-- Characters of an identifier as an editor completes it. -/
def isIdentifierChar (c : Char) : Bool := isAlphanumeric c || c == '_' || c == '$'

/-- Characters a declared name may start with. -/
def isNameStart (c : Char) : Bool := c.isAlpha || c == '_'

end PipelineServer.Text
