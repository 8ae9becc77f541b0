import PipelineServer.Text.Position

/-!
Compiler coordinates: lines and columns counted from one, columns in characters. A zero stands for
an unknown coordinate.
-/

namespace PipelineServer

/-- A place in a source text in compiler coordinates. -/
@[ext]
structure Spot where
  line : Nat
  column : Nat
deriving DecidableEq, Repr, Inhabited

namespace Spot

/-- The first character of a text. -/
def first : Spot := ⟨1, 1⟩

/-- The place behind `c`, if `c` is at this place. -/
def next (s : Spot) (c : Char) : Spot :=
  if c = '\n' then ⟨s.line + 1, 1⟩ else ⟨s.line, s.column + 1⟩

/-- The same place counted from zero; unknown coordinates stay at zero. -/
def toPosition (s : Spot) : Position := ⟨s.line - 1, s.column - 1⟩

end Spot

/-- A stretch of a source text; the end is behind the last character. -/
@[ext]
structure Span where
  start : Spot
  stop : Spot
deriving DecidableEq, Repr, Inhabited

namespace Span

/-- `length` characters of one line. -/
def onLine (line column length : Nat) : Span := ⟨⟨line, column⟩, ⟨line, column + length⟩⟩

/-- `length` characters from a place on, all on its line. -/
def ofLength (s : Spot) (length : Nat) : Span := onLine s.line s.column length

/-- The stretch in editor coordinates. -/
def toRange (s : Span) : Range := ⟨s.start.toPosition, s.stop.toPosition⟩

end Span

end PipelineServer
