import PipelineServer.Source.Token

/-!
The braces of one line.
-/

namespace PipelineServer.Source

/-- A brace outside strings and comments, with its column counted from one. -/
structure Brace where
  column : Nat
  opens : Bool
deriving DecidableEq, Repr

/-- The braces from a column on, where `quote` is the quote of the string that the text starts
in and `skip` tells whether its first character is passed over. Two slashes in code end the
line. -/
def bracesFrom (quote : Option Char) (skip : Bool) (column : Nat) : List Char → List Brace
  | [] => []
  | c :: rest =>
      match quote with
      | some q =>
          if skip then bracesFrom quote false (column + 1) rest
          else if c = '\\' then bracesFrom quote true (column + 1) rest
          else bracesFrom (if c = q then none else quote) false (column + 1) rest
      | none =>
          if c = '/' ∧ rest.head? = some '/' then []
          else if isQuote c then bracesFrom (some c) false (column + 1) rest
          else if c = '\x7b' then ⟨column, true⟩ :: bracesFrom none false (column + 1) rest
          else if c = '\x7d' then ⟨column, false⟩ :: bracesFrom none false (column + 1) rest
          else bracesFrom none false (column + 1) rest

/-- The braces of a line, as far as the line alone shows them: strings do not go on over line
ends, and block comments are not known. -/
def braces (line : List Char) : List Brace := bracesFrom none false 1 line

end PipelineServer.Source
