/-!
Cutting a text into lines.
-/

namespace PipelineServer.Text

/-- Drops one carriage return from the end of a line that is held in reverse. -/
def dropReturn : List Char → List Char
  | '\r' :: line => line
  | line => line

/-- `linesFrom line text` cuts `text` into lines, where `line` is the reverse of what the current
line already holds. -/
def linesFrom (line : List Char) : List Char → List (List Char)
  | [] => if line.isEmpty then [] else [line.reverse]
  | c :: rest =>
      if c = '\n' then (dropReturn line).reverse :: linesFrom [] rest
      else linesFrom (c :: line) rest

/-- The lines of a text. A newline ends a line and belongs to none, nor does one carriage return
right before it. What follows the last newline is a line unless it is empty. -/
def lines (text : List Char) : List (List Char) := linesFrom [] text

end PipelineServer.Text
