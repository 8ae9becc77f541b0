import PipelineServer.Text.Hex

/-!
Sets of characters given as code-point ranges.
-/

namespace PipelineServer.Text

/-- Inclusive ranges of code points, in increasing order. -/
abbrev CodeRanges := List (Nat × Nat)

namespace CodeRanges

/-- Whether `c` lies in one of the ranges. -/
def contains (ranges : CodeRanges) (c : Char) : Bool :=
  ranges.any fun range => range.1 ≤ c.toNat && c.toNat ≤ range.2

/-- Ranges from their ends. -/
def ofEnds : List Nat → CodeRanges
  | first :: last :: rest => (first, last) :: ofEnds rest
  | _ => []

/-- Ranges from a text that gives their ends in hexadecimal digits. -/
def ofText (text : String) : CodeRanges := ofEnds (hexNumbers text)

end CodeRanges

end PipelineServer.Text
