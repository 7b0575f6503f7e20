import Workflow.Bindings
import Workflow.CommandLine.Arguments
import Workflow.CommandLine.Perform
import Workflow.CommandLine.Report
import Workflow.CommandLine.Variable
import Workflow.Comparison
import Workflow.Condition
import Workflow.Config.Basic
import Workflow.Config.File
import Workflow.Decimal.Layout
import Workflow.Decimal.Reading
import Workflow.Decimal.Shortest
import Workflow.Definition.Basic
import Workflow.Definition.File
import Workflow.Definition.Document
import Workflow.Definition.Equality
import Workflow.Definition.Reading
import Workflow.Definition.Validation
import Workflow.Definition.Writing
import Workflow.Engine.Basic
import Workflow.Engine.Host
import Workflow.Engine.Running
import Workflow.Engine.Session
import Workflow.Engine.Thread
import Workflow.Environment
import Workflow.Event.Basic
import Workflow.Event.Bus
import Workflow.Event.Document
import Workflow.Expression.Basic
import Workflow.Expression.Evaluation
import Workflow.Expression.Token
import Workflow.File.Path
import Workflow.File.Tree
import Workflow.Json.Basic
import Workflow.Json.Parser
import Workflow.Json.Printer
import Workflow.Main
import Workflow.Path
import Workflow.Pattern.Basic
import Workflow.Pattern.ClassName
import Workflow.Pattern.Reader
import Workflow.Pattern.Size
import Workflow.Proofs.Contract.Step
import Workflow.Proofs.Control.History
import Workflow.Proofs.Course.Basic
import Workflow.Proofs.Course.Cancellation
import Workflow.Proofs.Course.Cursor
import Workflow.Proofs.Course.Identity
import Workflow.Proofs.Course.LoopIndex
import Workflow.Proofs.Course.Nesting
import Workflow.Proofs.Course.Pause
import Workflow.Proofs.Course.Place
import Workflow.Proofs.Course.Progress
import Workflow.Proofs.Course.Registration
import Workflow.Proofs.Course.Run
import Workflow.Proofs.Course.Session
import Workflow.Proofs.Course.Settlement
import Workflow.Proofs.Course.SingleFlight
import Workflow.Proofs.Course.Story
import Workflow.Proofs.Course.Termination
import Workflow.Proofs.Document.Definition
import Workflow.Proofs.Document.Faithful
import Workflow.Proofs.Document.Kinds
import Workflow.Proofs.Document.Number
import Workflow.Proofs.Document.Place
import Workflow.Proofs.Document.Registered
import Workflow.Proofs.Document.Saved
import Workflow.Proofs.Document.Step
import Workflow.Proofs.Document.Value
import Workflow.Proofs.Document.Within
import Workflow.Proofs.Environment.Merging
import Workflow.Proofs.Opening.Flow
import Workflow.Proofs.Opening.Step
import Workflow.Proofs.Opening.Strand
import Workflow.Proofs.Pact.Call
import Workflow.Proofs.Pact.Flow
import Workflow.Proofs.Pact.Frame
import Workflow.Proofs.Pact.Step
import Workflow.Proofs.Strand.Contract
import Workflow.Proofs.Play.Failure
import Workflow.Proofs.Play.Flow
import Workflow.Proofs.Play.Loop
import Workflow.Proofs.Play.Retry
import Workflow.Proofs.Play.Strand
import Workflow.Proofs.Protocol.Flow
import Workflow.Proofs.Protocol.Footprint
import Workflow.Proofs.Protocol.Frame
import Workflow.Proofs.Protocol.Identity
import Workflow.Proofs.Protocol.Step
import Workflow.Proofs.Protocol.Strand
import Workflow.Proofs.Protocol.Tally
import Workflow.Proofs.Story.Basic
import Workflow.Proofs.Story.Bracket
import Workflow.Proofs.Story.Call
import Workflow.Proofs.Story.Flow
import Workflow.Proofs.Story.Frame
import Workflow.Proofs.Story.Order
import Workflow.Proofs.Story.Own
import Workflow.Proofs.Story.Path
import Workflow.Proofs.Story.Step
import Workflow.Proofs.Story.Strand
import Workflow.Proofs.Strand.Basic
import Workflow.Proofs.Strand.Call
import Workflow.Proofs.Strand.Confluence
import Workflow.Proofs.Strand.Cursor
import Workflow.Proofs.Strand.Doings
import Workflow.Proofs.Strand.Line
import Workflow.Proofs.Strand.Log
import Workflow.Proofs.Strand.Parallel
import Workflow.Proofs.Strand.Rest
import Workflow.Proofs.Strand.SubWorkflow
import Workflow.Proofs.Strand.Termination
import Workflow.Proofs.Strand.Thread
import Workflow.Proofs.Strand.Waking
import Workflow.Proofs.Unwinding.Step
import Workflow.Proofs.Unwinding.Task
import Workflow.Registry
import Workflow.Run.Control
import Workflow.Run.Execution
import Workflow.Run.Failure
import Workflow.Run.Flow
import Workflow.Run.Record
import Workflow.Run.Request
import Workflow.Run.Retry
import Workflow.Run.State
import Workflow.Run.Step
import Workflow.RunId
import Workflow.Script.Datum
import Workflow.Script.Evaluation
import Workflow.Script.Evaluator
import Workflow.Script.Fault
import Workflow.Script.Frame
import Workflow.Script.Items
import Workflow.Script.Library
import Workflow.Script.Library.Array
import Workflow.Script.Library.Bytes
import Workflow.Script.Library.Effect
import Workflow.Script.Library.Map
import Workflow.Script.Library.Number
import Workflow.Script.Library.Part
import Workflow.Script.Library.Text
import Workflow.Script.Machine
import Workflow.Script.Operator
import Workflow.Script.Outcome
import Workflow.Script.Parser
import Workflow.Script.Purity
import Workflow.Script.Reader.Basic
import Workflow.Script.Scope
import Workflow.Script.Simplify
import Workflow.Script.Stream
import Workflow.Script.Token
import Workflow.Script.Tree
import Workflow.Template
import Workflow.Text.Age
import Workflow.Text.Blank
import Workflow.Text.Case
import Workflow.Text.Category
import Workflow.Text.CharSet
import Workflow.Text.Property.Basic
import Workflow.Text.Property.Table
import Workflow.Text.Quoted
import Workflow.Text.Script
import Workflow.Text.Search
import Workflow.Text.Segment
import Workflow.Text.Table
import Workflow.Text.Utf8
import Workflow.Text.Width
import Workflow.Timestamp
import Workflow.Toml.Basic
import Workflow.Toml.Reader
import Workflow.Value.Basic
import Workflow.Yaml.Node
import Workflow.Yaml.Printer
import Workflow.Yaml.Reader
import Workflow.Yaml.Scalar
import Workflow.Yaml.Token
import Workflow.Proofs.Template.Backtracking
import Workflow.Proofs.Template.Reading
import Workflow.Proofs.Template.Resolution
import Workflow.Proofs.Comparison.Rounding
import Workflow.Proofs.Template.Binding
import Workflow.Proofs.Comparison.Integers
import Workflow.Proofs.Comparison.Equality
import Workflow.Proofs.Document.Text
import Workflow.Proofs.Play.Branches
import Workflow.Proofs.Alike.Step
import Workflow.Proofs.File.Path
import Workflow.Proofs.File.Tree
import Workflow.Proofs.File.Discovery
import Workflow.Proofs.Condition.Truth
import Workflow.Proofs.Document.Event
