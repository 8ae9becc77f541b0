import PipelineServer.Source.Span

/-!
Declarations of pipeline and class sources, and how an editor shows them.
-/

namespace PipelineServer

/-- What a declaration declares. -/
inductive Kind
  | classType
  | interfaceType
  | enumType
  | method
  | field
  | property
  | var
  | process
  | workflow
deriving DecidableEq, Repr, Inhabited

namespace Kind

/-- Position in the order of kinds. -/
def rank : Kind → Nat
  | .classType => 0
  | .interfaceType => 1
  | .enumType => 2
  | .method => 3
  | .field => 4
  | .property => 5
  | .var => 6
  | .process => 7
  | .workflow => 8

/-- Kinds whose body declares members. -/
def isType : Kind → Bool
  | .classType | .interfaceType | .enumType => true
  | _ => false

/-- The number of a completion item of this kind. -/
def completionKind : Kind → Nat
  | .classType => 7
  | .interfaceType => 8
  | .enumType => 13
  | .method => 2
  | .field | .property => 5
  | .var => 6
  | .process => 3
  | .workflow => 9

/-- The number of an outline symbol of this kind. -/
def symbolKind : Kind → Nat
  | .classType => 5
  | .interfaceType => 11
  | .enumType => 10
  | .method => 6
  | .field | .property => 8
  | .var => 13
  | .process => 12
  | .workflow => 2

/-- The keyword shown in front of a name. -/
def keyword : Kind → String
  | .classType => "class"
  | .interfaceType => "interface"
  | .enumType => "enum"
  | .method => "def"
  | .field | .property => "field"
  | .var => "def"
  | .process => "process"
  | .workflow => "workflow"

end Kind

/-- A declaration in a source file. -/
structure Declaration where
  name : String
  kind : Kind
  span : Span
  /-- The name of the declaration around it. -/
  parent : Option String := none
  /-- Its declared type. -/
  detail : Option String := none
deriving DecidableEq, Repr, Inhabited

end PipelineServer
