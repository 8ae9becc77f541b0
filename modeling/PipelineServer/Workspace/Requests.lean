import PipelineServer.Symbols.Outline
import PipelineServer.Symbols.Present
import PipelineServer.Workspace.Events

/-!
Questions the editor asks a workspace.

Before a question about a file is answered, the file is brought up to date if another one was
active, so no answer rests on what was known before the user moved on.
-/

namespace PipelineServer.Workspace

variable {F : Frontend}

/-- Brings a file up to date, and notes it if a cycle was run for it. -/
def prepareFor (w : Workspace F) (disk : FileTree) (uri : Uri) : Step F :=
  let step := w.visit disk uri
  match step.report with
  | none => step
  | some report =>
      { step with
        trace := step.trace ++
          [debugLine ("Refreshed " ++ uri.text ++ " before answering (" ++
            toString report.errors ++ " error(s))")] }

/-- The start of the name that is being typed. -/
def typedAt (w : Workspace F) (uri : Uri) (p : Position) : String :=
  match w.documents.text? uri with
  | some text => String.ofList (Text.identifierBefore text.toList p)
  | none => ""

/-- Proposals for the name being typed. -/
def completions (w : Workspace F) (uri : Uri) (p : Position) : List CompletionItem :=
  (w.index.candidates (w.typedAt uri p)).map Symbol.completionItem

/-- What is known about the place. -/
def hoverAt (w : Workspace F) (uri : Uri) (p : Position) : Option Hover :=
  (w.index.symbolAt? uri p).map Symbol.hover

/-- The outline of a file. -/
def outlineOf (w : Workspace F) (uri : Uri) : List OutlineNode := outline (w.index.symbols uri)

end PipelineServer.Workspace
