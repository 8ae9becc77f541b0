import PipelineServer.Symbols.Index

/-!
How symbols are shown in completions and hovers.
-/

namespace PipelineServer

/-- One proposal of a completion. -/
structure CompletionItem where
  label : String
  kind : Nat
  detail : Option String
deriving DecidableEq, Repr

/-- A text about the symbol under the cursor, and where that symbol is. -/
structure Hover where
  markdown : String
  range : Range
deriving DecidableEq, Repr

namespace Symbol

/-- The proposal of a symbol; its detail is its type, or else where it is declared. -/
def completionItem (s : Symbol) : CompletionItem :=
  ⟨s.name, s.kind.completionKind, s.detail <|> s.parent⟩

/-- The symbol as it would be declared. -/
def signature (s : Symbol) : String :=
  let lead := s.detail.getD s.kind.keyword
  match s.kind with
  | .method => lead ++ " " ++ s.name ++ "()"
  | .field | .property | .var => lead ++ " " ++ s.name
  | _ => s.kind.keyword ++ " " ++ s.name

/-- The signature as a block of code, and the parent. -/
def describe (s : Symbol) : String :=
  let block := "```groovy\n" ++ s.signature ++ "\n```"
  match s.parent with
  | some parent => block ++ "\n\nDeclared in `" ++ parent ++ "`"
  | none => block

def hover (s : Symbol) : Hover := ⟨s.describe, s.range⟩

end Symbol

end PipelineServer
