import PipelineServer.CommandLine
import PipelineServer.Compiler.Compile
import PipelineServer.Compiler.Frontend
import PipelineServer.Compiler.Phase
import PipelineServer.Compiler.Scanning
import PipelineServer.Compiler.Scripted
import PipelineServer.Diagnostics
import PipelineServer.Disk.Change
import PipelineServer.Disk.Sources
import PipelineServer.Disk.Tree
import PipelineServer.Editor.Document
import PipelineServer.Effect
import PipelineServer.Json.Basic
import PipelineServer.Json.Number
import PipelineServer.Json.Reader
import PipelineServer.Json.Shortest
import PipelineServer.Json.Writer
import PipelineServer.Main
import PipelineServer.Path
import PipelineServer.Program
import PipelineServer.Proofs.SortedMap
import PipelineServer.Proofs.Symbols.Index
import PipelineServer.Proofs.Workspace.Cycle
import PipelineServer.Proofs.Workspace.Run
import PipelineServer.Protocol.Capabilities
import PipelineServer.Protocol.Encode
import PipelineServer.Protocol.Frame
import PipelineServer.Protocol.Params
import PipelineServer.Protocol.Rpc
import PipelineServer.Protocol.Shape
import PipelineServer.Server.Dispatch
import PipelineServer.Server.Reach
import PipelineServer.Server.Run
import PipelineServer.Session.Manager
import PipelineServer.Session.State
import PipelineServer.SortedMap
import PipelineServer.Source.Balance
import PipelineServer.Source.Brace
import PipelineServer.Source.Declaration
import PipelineServer.Source.Extract
import PipelineServer.Source.Message
import PipelineServer.Source.Recognise
import PipelineServer.Source.Span
import PipelineServer.Source.Token
import PipelineServer.Symbols.Index
import PipelineServer.Symbols.Outline
import PipelineServer.Symbols.Present
import PipelineServer.Text.Alphabetic
import PipelineServer.Text.CharClass
import PipelineServer.Text.CodeRange
import PipelineServer.Text.Composite
import PipelineServer.Text.Cursor
import PipelineServer.Text.Direction
import PipelineServer.Text.Format
import PipelineServer.Text.Hex
import PipelineServer.Text.Joining
import PipelineServer.Text.Lines
import PipelineServer.Text.Mark
import PipelineServer.Text.Normal
import PipelineServer.Text.Numeral
import PipelineServer.Text.Position
import PipelineServer.Text.Punycode
import PipelineServer.Text.Quoted
import PipelineServer.Text.Recent
import PipelineServer.Text.Unassigned
import PipelineServer.Text.Utf8
import PipelineServer.Uri.Address
import PipelineServer.Uri.Basic
import PipelineServer.Uri.Domain
import PipelineServer.Uri.File
import PipelineServer.Uri.Host
import PipelineServer.Uri.Mapping
import PipelineServer.Uri.Parse
import PipelineServer.Uri.Percent
import PipelineServer.Workspace.Basic
import PipelineServer.Workspace.Events
import PipelineServer.Workspace.Requests
import PipelineServer.Workspace.Settings
import PipelineServer.Proofs.Compiler.Scanning
import PipelineServer.Proofs.Workspace.Scanning
import PipelineServer.Proofs.Workspace.Indexing
import PipelineServer.Proofs.Diagnostics
import PipelineServer.Proofs.Workspace.OpenDocuments
import PipelineServer.Proofs.Source.Nesting
import PipelineServer.Proofs.Source.Pieces
import PipelineServer.Proofs.Source.Blocks
import PipelineServer.Proofs.Symbols.Outline
import PipelineServer.Proofs.Workspace.EditorView
import PipelineServer.Proofs.Source.Language
import PipelineServer.Proofs.Text.Buffer
import PipelineServer.Proofs.Editor.Buffer
import PipelineServer.Proofs.Compiler.Sources
import PipelineServer.Proofs.Workspace.ActiveFile
import PipelineServer.Proofs.Workspace.OwnDiagnostics
import PipelineServer.Proofs.Compiler.Reuse
import PipelineServer.Proofs.Workspace.Reuse
import PipelineServer.Proofs.Session.Lifecycle
import PipelineServer.Proofs.Workspace.Calls
import PipelineServer.Proofs.Workspace.Marks
import PipelineServer.Proofs.Workspace.Recovery
import PipelineServer.Proofs.Text.Utf8
import PipelineServer.Proofs.Workspace.Commuting
import PipelineServer.Proofs.Workspace.Configuration
import PipelineServer.Proofs.Source.Anchors
import PipelineServer.Proofs.Source.Positions
import PipelineServer.Proofs.Source.Braces
import PipelineServer.Proofs.Source.Order
import PipelineServer.Proofs.Source.Composition
import PipelineServer.Proofs.Source.Matching
import PipelineServer.Proofs.Server.Answers
import PipelineServer.Proofs.Disk.Change
import PipelineServer.Proofs.Session.Output
import PipelineServer.Proofs.Workspace.Scratch
import PipelineServer.Proofs.Source.LineEndings
import PipelineServer.Proofs.Source.Depth
import PipelineServer.Proofs.Source.Ownership
import PipelineServer.Proofs.Source.Appending
import PipelineServer.Proofs.Source.Names
import PipelineServer.Proofs.Editor.Decoding
import PipelineServer.Proofs.Symbols.Innermost
import PipelineServer.Proofs.Symbols.Forest
import PipelineServer.Proofs.Symbols.Completion
import PipelineServer.Proofs.Workspace.Completions
import PipelineServer.Proofs.Disk.Search
import PipelineServer.Proofs.Compiler.Fresh
import PipelineServer.Proofs.Compiler.Readings
import PipelineServer.Proofs.Workspace.Unreadable
