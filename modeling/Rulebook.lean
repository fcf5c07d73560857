import Rulebook.Alias
import Rulebook.Atom
import Rulebook.Bytes
import Rulebook.Classification
import Rulebook.CommandLine.Help
import Rulebook.CommandLine.Request
import Rulebook.CommandLine.Run
import Rulebook.DataSource
import Rulebook.DataSource.Configuration
import Rulebook.Declaration
import Rulebook.Declaration.Identifier
import Rulebook.Diagnostic
import Rulebook.Digest
import Rulebook.Exchange.KnowledgeBase
import Rulebook.Exchange.Model
import Rulebook.Exchange.Settings
import Rulebook.Exchange.SettingsFile
import Rulebook.Failure
import Rulebook.Json
import Rulebook.Json.Printer
import Rulebook.Json.Reader
import Rulebook.Json.Record
import Rulebook.Json.Text
import Rulebook.KnowledgeBase
import Rulebook.Main
import Rulebook.ModelError
import Rulebook.OutputFile
import Rulebook.Path
import Rulebook.Predicate
import Rulebook.Proofs.Classification.ClosedForm
import Rulebook.Proofs.Classification.Configuration
import Rulebook.Proofs.Classification.Content
import Rulebook.Proofs.Classification.Delivery
import Rulebook.Proofs.Classification.Freshness
import Rulebook.Proofs.Classification.Progress
import Rulebook.Proofs.Classification.Reordering
import Rulebook.Proofs.Compilation
import Rulebook.Proofs.DataSource.File
import Rulebook.Proofs.Datalog
import Rulebook.Proofs.Declaration.Canonical
import Rulebook.Proofs.Declaration.Spelling
import Rulebook.Proofs.Exchange.Checked
import Rulebook.Proofs.Exchange.RoundTrip
import Rulebook.Proofs.Exchange.Settings
import Rulebook.Proofs.Exchange.WellFormed
import Rulebook.Proofs.Json.Layout
import Rulebook.Proofs.Json.Record
import Rulebook.Proofs.Json.RoundTrip
import Rulebook.Proofs.Json.Token
import Rulebook.Proofs.Lines
import Rulebook.Proofs.Naming
import Rulebook.Proofs.Path
import Rulebook.Proofs.Quotation
import Rulebook.Proofs.Reasoner.Answers
import Rulebook.Proofs.Reasoner.Completion
import Rulebook.Proofs.Reasoner.Correctness
import Rulebook.Proofs.Reasoner.Discipline
import Rulebook.Proofs.Reasoner.Independence
import Rulebook.Proofs.Reasoner.LoadOutcome
import Rulebook.Proofs.Reasoner.Mirror
import Rulebook.Proofs.Reasoner.Notification
import Rulebook.Proofs.Reasoner.Noting
import Rulebook.Proofs.Reasoner.Refusal
import Rulebook.Proofs.Reasoner.Run
import Rulebook.Proofs.Reasoner.Schedule
import Rulebook.Proofs.Reasoner.Supervision
import Rulebook.Proofs.Rendering.Agreement
import Rulebook.Proofs.Rendering.Capture
import Rulebook.Proofs.Rendering.Distinction
import Rulebook.Proofs.Rendering.Grammar
import Rulebook.Proofs.Rendering.Legibility
import Rulebook.Proofs.Rendering.Occurrence
import Rulebook.Proofs.Rendering.Program
import Rulebook.Proofs.Rendering.Skolemization
import Rulebook.Proofs.Script.Copying
import Rulebook.Proofs.Solver.Echo
import Rulebook.Proofs.Sorted
import Rulebook.Proofs.Toml.Document
import Rulebook.Proofs.Toml.Text
import Rulebook.Proofs.Toml.Value
import Rulebook.Proofs.Utf8
import Rulebook.Reasoner.Action
import Rulebook.Reasoner.Backend
import Rulebook.Reasoner.Configuration
import Rulebook.Reasoner.Error
import Rulebook.Reasoner.Faulty
import Rulebook.Reasoner.Lifecycle
import Rulebook.Reasoner.Query
import Rulebook.Reasoner.Recorder
import Rulebook.Reasoner.Shared
import Rulebook.Reasoner.State
import Rulebook.Reasoner.Supervision
import Rulebook.Rule
import Rulebook.Script.Arithmetic
import Rulebook.Script.Builtin.Place
import Rulebook.Script.Builtin.Process
import Rulebook.Script.Builtin.Table
import Rulebook.Script.Builtin.Text
import Rulebook.Script.Builtin.Variable
import Rulebook.Script.Command
import Rulebook.Script.Condition
import Rulebook.Script.Decimal
import Rulebook.Script.Edit.Evaluation
import Rulebook.Script.Edit.Program
import Rulebook.Script.Edit.Reader
import Rulebook.Script.Edit.State
import Rulebook.Script.Evaluation
import Rulebook.Script.Expansion
import Rulebook.Script.Fields
import Rulebook.Script.Format
import Rulebook.Script.Grammar
import Rulebook.Script.Integer
import Rulebook.Script.Machine
import Rulebook.Script.Octets
import Rulebook.Script.Pattern
import Rulebook.Script.Process
import Rulebook.Script.Quoting
import Rulebook.Script.Reader
import Rulebook.Script.Regex
import Rulebook.Script.Rights
import Rulebook.Script.Route
import Rulebook.Script.Run
import Rulebook.Script.Scan.Evaluation
import Rulebook.Script.Scan.Program
import Rulebook.Script.Scan.Reader
import Rulebook.Script.Scan.State
import Rulebook.Script.Scan.Value
import Rulebook.Script.Shell
import Rulebook.Script.Tool.Checksum
import Rulebook.Script.Tool.Columns
import Rulebook.Script.Tool.Comparing
import Rulebook.Script.Tool.Dumping
import Rulebook.Script.Tool.Editing
import Rulebook.Script.Tool.Files
import Rulebook.Script.Tool.Host
import Rulebook.Script.Tool.Option
import Rulebook.Script.Tool.Scanning
import Rulebook.Script.Tool.Search
import Rulebook.Script.Tool.Sorting
import Rulebook.Script.Tool.Starting
import Rulebook.Script.Tool.Stream
import Rulebook.Script.Tool.Table
import Rulebook.Script.Tool.Value
import Rulebook.Settings
import Rulebook.Solver.Error
import Rulebook.Solver.Process
import Rulebook.Solver.Program
import Rulebook.Solver.Rendering
import Rulebook.Solver.Started
import Rulebook.Sorted
import Rulebook.Statement
import Rulebook.Term
import Rulebook.Text.Blank
import Rulebook.Text.Duration
import Rulebook.Text.Extender
import Rulebook.Text.Quoted
import Rulebook.Text.Unprintable
import Rulebook.Toml.Document
import Rulebook.Toml.Layout
import Rulebook.Toml.Moment
import Rulebook.Toml.Number
import Rulebook.Toml.Printer
import Rulebook.Toml.Quoted
import Rulebook.Toml.Table
import Rulebook.Toml.Text
import Rulebook.Toml.Value
