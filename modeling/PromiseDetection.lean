import PromiseDetection.Analysis.Cancellation
import PromiseDetection.Analysis.Mode
import PromiseDetection.Analysis.Spans
import PromiseDetection.Association
import PromiseDetection.Code.Binding
import PromiseDetection.Code.Candidate
import PromiseDetection.Code.Document
import PromiseDetection.Code.Returns
import PromiseDetection.Code.Shape
import PromiseDetection.CommandLine.Arguments
import PromiseDetection.CommandLine.Command
import PromiseDetection.CommandLine.Run
import PromiseDetection.Disk.FileSystem
import PromiseDetection.Disk.Path
import PromiseDetection.Heuristic.Judgement
import PromiseDetection.Json.Binary64
import PromiseDetection.Json.Number
import PromiseDetection.Json.Value
import PromiseDetection.Library.Arguments
import PromiseDetection.Library.FileWalk
import PromiseDetection.Library.IgnoreRule
import PromiseDetection.Library.Json.Codec
import PromiseDetection.Library.Json.Fault
import PromiseDetection.Library.Json.Params
import PromiseDetection.Library.Json.Reader
import PromiseDetection.Library.Json.Request
import PromiseDetection.Library.Json.Text
import PromiseDetection.Library.Pattern
import PromiseDetection.Main
import PromiseDetection.Modules.Declaration
import PromiseDetection.Modules.Export
import PromiseDetection.Modules.Graph
import PromiseDetection.Modules.Resolution
import PromiseDetection.Modules.Scope
import PromiseDetection.Proofs.Analysis.Cancellation
import PromiseDetection.Proofs.Analysis.Emission
import PromiseDetection.Proofs.Analysis.EmptySpans
import PromiseDetection.Proofs.Analysis.Freshness
import PromiseDetection.Proofs.Analysis.Indifference
import PromiseDetection.Proofs.Analysis.Polling
import PromiseDetection.Proofs.Analysis.Separation
import PromiseDetection.Proofs.Analysis.Union
import PromiseDetection.Proofs.Code.OwnReturns
import PromiseDetection.Proofs.Code.OwnText
import PromiseDetection.Proofs.Code.StringLiterals
import PromiseDetection.Proofs.Code.ThisBinding
import PromiseDetection.Proofs.Code.Wrappers
import PromiseDetection.Proofs.Disk.Overwriting
import PromiseDetection.Proofs.Disk.PathOrder
import PromiseDetection.Proofs.Disk.Spelling
import PromiseDetection.Proofs.Heuristic.Rebinding
import PromiseDetection.Proofs.Heuristic.Retelling
import PromiseDetection.Proofs.Library.Json
import PromiseDetection.Proofs.Modules.BreadthFirst
import PromiseDetection.Proofs.Modules.Closure
import PromiseDetection.Proofs.Modules.DefaultExport
import PromiseDetection.Proofs.Modules.Graph
import PromiseDetection.Proofs.Modules.Loading
import PromiseDetection.Proofs.Modules.Nearest
import PromiseDetection.Proofs.Modules.Reexport
import PromiseDetection.Proofs.Modules.SeparateDefaults
import PromiseDetection.Proofs.Registry.Bookkeeping
import PromiseDetection.Proofs.Registry.Completeness
import PromiseDetection.Proofs.Registry.Foundation
import PromiseDetection.Proofs.Registry.Ground
import PromiseDetection.Proofs.Registry.Reordering
import PromiseDetection.Proofs.Registry.Shadowing
import PromiseDetection.Proofs.Registry.Workload
import PromiseDetection.Proofs.Scan.Sharing
import PromiseDetection.Proofs.Service.Compact
import PromiseDetection.Proofs.Service.Dialogue
import PromiseDetection.Proofs.Service.Endurance
import PromiseDetection.Proofs.Source.NormalForm
import PromiseDetection.Proofs.Text.Fields
import PromiseDetection.Proofs.Text.Lines
import PromiseDetection.Proofs.Text.Position
import PromiseDetection.Proofs.Text.Slice
import PromiseDetection.Proofs.Text.Span
import PromiseDetection.Proofs.Text.Strip
import PromiseDetection.Proofs.Tree.Ancestors
import PromiseDetection.Proofs.Tree.Preorder
import PromiseDetection.Proofs.Tree.Ranges
import PromiseDetection.Proofs.Tree.Visit
import PromiseDetection.Proofs.Typing.Agreement
import PromiseDetection.Proofs.Typing.Awaiting
import PromiseDetection.Proofs.Typing.Balance
import PromiseDetection.Proofs.Typing.Declared
import PromiseDetection.Proofs.Typing.History
import PromiseDetection.Proofs.Typing.Law
import PromiseDetection.Proofs.Typing.Levels
import PromiseDetection.Proofs.Typing.Lookup
import PromiseDetection.Proofs.Typing.Memory
import PromiseDetection.Proofs.Typing.ObjectLiteral
import PromiseDetection.Proofs.Typing.Patience
import PromiseDetection.Proofs.Typing.Rules
import PromiseDetection.Proofs.Typing.Stack
import PromiseDetection.Proofs.Typing.Termination
import PromiseDetection.Proofs.Watch.LatestEvent
import PromiseDetection.Registry.Basic
import PromiseDetection.Registry.Definition
import PromiseDetection.Registry.Worklist
import PromiseDetection.Report.Basic
import PromiseDetection.Scan.Scan
import PromiseDetection.Service.Codec
import PromiseDetection.Service.Conversation
import PromiseDetection.Service.Response
import PromiseDetection.Source.Dialect
import PromiseDetection.Source.Extensions
import PromiseDetection.Source.TreeTable
import PromiseDetection.Source.Unit
import PromiseDetection.Text.Blank
import PromiseDetection.Text.CaseTable
import PromiseDetection.Text.Decoding
import PromiseDetection.Text.Fields
import PromiseDetection.Text.Lines
import PromiseDetection.Text.Lowercase
import PromiseDetection.Text.Position
import PromiseDetection.Text.Quoted
import PromiseDetection.Text.Slice
import PromiseDetection.Text.Span
import PromiseDetection.Tree.Basic
import PromiseDetection.Tree.Kind
import PromiseDetection.Tree.Walk
import PromiseDetection.Typing.Inference
import PromiseDetection.Typing.Named
import PromiseDetection.Typing.Session
import PromiseDetection.Typing.Ty
import PromiseDetection.Typing.Written
import PromiseDetection.Watch.ChangeSet
import PromiseDetection.Watch.Difference
import PromiseDetection.Watch.Session
