import ComplexityHints.Command
import ComplexityHints.Diagnostic
import ComplexityHints.Document
import ComplexityHints.Engine
import ComplexityHints.Files.Path
import ComplexityHints.Files.Read
import ComplexityHints.Files.Select
import ComplexityHints.Files.Snapshot
import ComplexityHints.Files.Tree
import ComplexityHints.Gate
import ComplexityHints.Glob.Braces
import ComplexityHints.Glob.Match
import ComplexityHints.Glob.Pattern
import ComplexityHints.Host.Bodies
import ComplexityHints.Host.Mask
import ComplexityHints.Keyed
import ComplexityHints.Language
import ComplexityHints.Logging
import ComplexityHints.Main
import ComplexityHints.Metric.Message
import ComplexityHints.Metric.Unit
import ComplexityHints.Number.Binary
import ComplexityHints.Number.Read
import ComplexityHints.Number.Shortest
import ComplexityHints.Problem
import ComplexityHints.Report.Basic
import ComplexityHints.Report.Json
import ComplexityHints.Report.Table
import ComplexityHints.Score.Lua
import ComplexityHints.Score.Offset
import ComplexityHints.Score.Script
import ComplexityHints.Score.Walk
import ComplexityHints.Session
import ComplexityHints.Settings.Basic
import ComplexityHints.Settings.Costs
import ComplexityHints.Settings.Environment
import ComplexityHints.Settings.Load
import ComplexityHints.Settings.Toml.Document
import ComplexityHints.Settings.Toml.Lexeme
import ComplexityHints.Settings.Calendar
import ComplexityHints.Settings.Value
import ComplexityHints.Syntax.Lua.Grammar
import ComplexityHints.Syntax.Lua.Token
import ComplexityHints.Syntax.Node
import ComplexityHints.Syntax.Parse
import ComplexityHints.Syntax.Parser
import ComplexityHints.Syntax.Script.Binding
import ComplexityHints.Syntax.Script.Callable
import ComplexityHints.Syntax.Script.Context
import ComplexityHints.Syntax.Script.Element
import ComplexityHints.Syntax.Script.Expression
import ComplexityHints.Syntax.Script.Grammar
import ComplexityHints.Syntax.Script.Literal
import ComplexityHints.Syntax.Script.Statement
import ComplexityHints.Syntax.Script.Token
import ComplexityHints.Syntax.Script.Type
import ComplexityHints.Text.Cells
import ComplexityHints.Text.CodePoint
import ComplexityHints.Text.Digit
import ComplexityHints.Text.Lines
import ComplexityHints.Text.Quoted
import ComplexityHints.Text.Space
import ComplexityHints.Text.Utf8
import ComplexityHints.Text.Word
import ComplexityHints.Proofs.Host.Tags
import ComplexityHints.Proofs.Host.Bodies
import ComplexityHints.Proofs.Host.Layout
import ComplexityHints.Proofs.Host.Comments
import ComplexityHints.Proofs.Host.Live
import ComplexityHints.Proofs.Host.Pairing
import ComplexityHints.Proofs.Metric.Tree
import ComplexityHints.Proofs.Score.Walk
import ComplexityHints.Proofs.Score.Stack
import ComplexityHints.Proofs.Score.Placement
import ComplexityHints.Proofs.Score.Offset
import ComplexityHints.Proofs.Score.Total
import ComplexityHints.Proofs.Host.Offsets
import ComplexityHints.Proofs.Glob.Braces
import ComplexityHints.Proofs.Glob.Segment
import ComplexityHints.Proofs.Glob.Segmentwise
import ComplexityHints.Proofs.Failure
import ComplexityHints.Proofs.Settings.Document
import ComplexityHints.Proofs.Settings.Merge
import ComplexityHints.Proofs.Settings.Fields
import ComplexityHints.Proofs.Settings.Precedence
import ComplexityHints.Proofs.Settings.Containment
import ComplexityHints.Proofs.Publishing
import ComplexityHints.Proofs.Reading
import ComplexityHints.Proofs.Exclusion
import ComplexityHints.Proofs.Glob.Expansion
import ComplexityHints.Proofs.Glob.BraceGrammar
import ComplexityHints.Proofs.Glob.Classes
import ComplexityHints.Proofs.Reports
import ComplexityHints.Proofs.Glob.Slashes
import ComplexityHints.Proofs.Positions
import ComplexityHints.Proofs.Score.Conversion
import ComplexityHints.Proofs.Metric.Address
import ComplexityHints.Proofs.Metric.Kept
import ComplexityHints.Proofs.Score.Raised
import ComplexityHints.Proofs.Score.Spans
import ComplexityHints.Proofs.Metric.Breakdown
import ComplexityHints.Proofs.Settings.Levels
import ComplexityHints.Proofs.Settings.Sound
import ComplexityHints.Proofs.Selection
import ComplexityHints.Proofs.Wording
import ComplexityHints.Proofs.Limits
import ComplexityHints.Proofs.Metric.Substitution

