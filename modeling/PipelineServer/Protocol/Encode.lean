import PipelineServer.Diagnostics
import PipelineServer.Json.Basic
import PipelineServer.Symbols.Outline
import PipelineServer.Symbols.Present

/-!
Answers as JSON values.
-/

namespace PipelineServer.Encode

def position (p : Position) : Json :=
  .object [("line", .nat p.line), ("character", .nat p.character)]

def range (r : Range) : Json := .object [("start", position r.start), ("end", position r.stop)]

def diagnostic (d : Diagnostic) : Json :=
  .object [("range", range d.range), ("severity", .nat d.severity.number),
    ("source", .text Diagnostic.origin), ("message", .text d.text)]

/-- The parameters of a publication. -/
def publication (uri : Uri) (diagnostics : List Diagnostic) : Json :=
  .object [("uri", .text uri.text), ("diagnostics", .array (diagnostics.map diagnostic))]

def completionItem (item : CompletionItem) : Json :=
  .ofFields [("label", some (.text item.label)), ("kind", some (.nat item.kind)),
    ("detail", item.detail.map .text)]

def completions (items : List CompletionItem) : Json := .array (items.map completionItem)

def hover : Option Hover → Json
  | none => .null
  | some h =>
      .object [
        ("contents", .object [("kind", .text "markdown"), ("value", .text h.markdown)]),
        ("range", range h.range)]

mutual

/-- A symbol of an outline. A symbol without children has no list of them. -/
def outlineNode : OutlineNode → Json
  | .node s selection children =>
      .ofFields [("name", some (.text s.name)), ("detail", s.detail.map .text),
        ("kind", some (.nat s.kind.symbolKind)), ("range", some (range s.range)),
        ("selectionRange", some (range selection)),
        ("children", if children.isEmpty then none else some (.array (outlineNodes children)))]

def outlineNodes : List OutlineNode → List Json
  | [] => []
  | node :: rest => outlineNode node :: outlineNodes rest

end

def outline (nodes : List OutlineNode) : Json := .array (outlineNodes nodes)

/-- What the server can do. -/
def capabilities : Json :=
  .object [
    ("textDocumentSync",
      .object [("openClose", .bool true), ("change", .nat 2), ("save", .bool true)]),
    ("hoverProvider", .bool true),
    ("completionProvider", .object [("triggerCharacters", .array [.text "."])]),
    ("documentSymbolProvider", .bool true)]

def serverName : String := "nextflow-language-server"

def serverVersion : String := "0.1.0"

/-- The answer to the request that starts the server. -/
def greeting : Json :=
  .object [("capabilities", capabilities),
    ("serverInfo", .object [("name", .text serverName), ("version", .text serverVersion)])]

end PipelineServer.Encode
