import PromptPipeline.Config
import PromptPipeline.Decimal.Binary
import PromptPipeline.Decimal.Fixed
import PromptPipeline.Decimal.Nearest
import PromptPipeline.Decimal.Shortest
import PromptPipeline.Expr.Coerce
import PromptPipeline.Expr.Error
import PromptPipeline.Expr.Eval
import PromptPipeline.Expr.Lexer
import PromptPipeline.Expr.Parser
import PromptPipeline.Expr.Syntax
import PromptPipeline.Job.Dataset
import PromptPipeline.Job.Item
import PromptPipeline.Job.Pool
import PromptPipeline.Job.Service
import PromptPipeline.Job.Tracker
import PromptPipeline.Json.Read
import PromptPipeline.Json.Write
import PromptPipeline.Pattern.Automaton
import PromptPipeline.Pattern.CharSet
import PromptPipeline.Pattern.Expr
import PromptPipeline.Pattern.Footprint
import PromptPipeline.Pattern.Nesting
import PromptPipeline.Pattern.Property
import PromptPipeline.Pattern.Reader
import PromptPipeline.Pattern.Syntax
import PromptPipeline.Pattern.Tables.Age
import PromptPipeline.Pattern.Tables.Boundary
import PromptPipeline.Pattern.Tables.Category
import PromptPipeline.Pattern.Tables.Extension
import PromptPipeline.Pattern.Tables.Fold
import PromptPipeline.Pattern.Tables.Property
import PromptPipeline.Pattern.Tables.Script
import PromptPipeline.Pattern.Translate
import PromptPipeline.Pattern.Utf8Ranges
import PromptPipeline.Proofs.Assignment
import PromptPipeline.Proofs.Blocks
import PromptPipeline.Proofs.Budget
import PromptPipeline.Proofs.Compile
import PromptPipeline.Proofs.EditDistance
import PromptPipeline.Proofs.Extraction
import PromptPipeline.Proofs.Frames
import PromptPipeline.Proofs.Grammar
import PromptPipeline.Proofs.Isolation
import PromptPipeline.Proofs.JsonText
import PromptPipeline.Proofs.JumpTable
import PromptPipeline.Proofs.Layers
import PromptPipeline.Proofs.Layout
import PromptPipeline.Proofs.LooseEquality
import PromptPipeline.Proofs.Nesting
import PromptPipeline.Proofs.NumberScan
import PromptPipeline.Proofs.NumberText
import PromptPipeline.Proofs.Overflow
import PromptPipeline.Proofs.Path
import PromptPipeline.Proofs.Pool
import PromptPipeline.Proofs.Progress
import PromptPipeline.Proofs.Records
import PromptPipeline.Proofs.Scan
import PromptPipeline.Proofs.Serial
import PromptPipeline.Proofs.Snapshot
import PromptPipeline.Proofs.StoredNumbers
import PromptPipeline.Proofs.Structured
import PromptPipeline.Proofs.SyntaxOffsets
import PromptPipeline.Proofs.Termination
import PromptPipeline.Proofs.Turnaround
import PromptPipeline.Proofs.Validation
import PromptPipeline.Proofs.Whole
import PromptPipeline.Provider.Basic
import PromptPipeline.Provider.Registry
import PromptPipeline.Response.Extract
import PromptPipeline.Response.Parse
import PromptPipeline.Scope
import PromptPipeline.Template.Builtin.Args
import PromptPipeline.Template.Builtin.Filters
import PromptPipeline.Template.Builtin.Format
import PromptPipeline.Template.Builtin.Functions
import PromptPipeline.Template.Builtin.Seq
import PromptPipeline.Template.Builtin.Tests
import PromptPipeline.Template.Builtin.Text
import PromptPipeline.Template.Closure
import PromptPipeline.Template.Datum
import PromptPipeline.Template.Datum.Order
import PromptPipeline.Template.Datum.Show
import PromptPipeline.Template.Engine
import PromptPipeline.Template.Error
import PromptPipeline.Template.Lexer
import PromptPipeline.Template.Machine
import PromptPipeline.Template.Ops
import PromptPipeline.Template.Parse
import PromptPipeline.Template.Placeholder
import PromptPipeline.Template.Render
import PromptPipeline.Template.Suggest
import PromptPipeline.Template.Syntax
import PromptPipeline.Text.Case
import PromptPipeline.Text.Escaped
import PromptPipeline.Text.Lines
import PromptPipeline.Text.Unicode
import PromptPipeline.Value
import PromptPipeline.Value.Decode
import PromptPipeline.Workflow.Check
import PromptPipeline.Workflow.Definition
import PromptPipeline.Workflow.Outcome
import PromptPipeline.Workflow.Program
import PromptPipeline.Workflow.Run
