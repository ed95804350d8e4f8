import ScriptSteps.Text.Ranges
import ScriptSteps.Text.Blank
import ScriptSteps.Text.Name
import ScriptSteps.Text.Alphanumeric
import ScriptSteps.Text.Extending
import ScriptSteps.Text.Visible
import ScriptSteps.Text.Cluster
import ScriptSteps.Number.Binary64
import ScriptSteps.Number.Decimal
import ScriptSteps.Number.Layout
import ScriptSteps.Text.Quoted
import ScriptSteps.Token.Kind
import ScriptSteps.Token.Scan
import ScriptSteps.Tree.Operator
import ScriptSteps.Tree.Expression
import ScriptSteps.Tree.Statement
import ScriptSteps.Error
import ScriptSteps.Grammar.Cursor
import ScriptSteps.Grammar.Expression
import ScriptSteps.Grammar.Statement
import ScriptSteps.Grammar
import ScriptSteps.Tree.Printer
import ScriptSteps.Step
import ScriptSteps.Step.Flatten
import ScriptSteps.Step.Visit
import ScriptSteps.Json.Value
import ScriptSteps.Json.Reader
import ScriptSteps.Step.Json
import ScriptSteps.Report.Style
import ScriptSteps.Report.Format
import ScriptSteps.Report.Table
import ScriptSteps.Report
import ScriptSteps.Files
import ScriptSteps.Log
import ScriptSteps.Toml.Value
import ScriptSteps.Toml.Reader
import ScriptSteps.Settings
import ScriptSteps.Settings.File
import ScriptSteps.Settings.Environment
import ScriptSteps.CommandLine
import ScriptSteps.Text.Bytes
import ScriptSteps.Text.Hex
import ScriptSteps.Session.Command
import ScriptSteps.Session.Completion
import ScriptSteps.Session.Highlight
import ScriptSteps.Session.Continuation
import ScriptSteps.Session.Backspace
import ScriptSteps.Step.Trace
import ScriptSteps.Output
import ScriptSteps.Session
import ScriptSteps.Settings.Load
import ScriptSteps.Program
import ScriptSteps.Main
import ScriptSteps.Proofs.Number.Nearest
import ScriptSteps.Proofs.Text.Trimmed
import ScriptSteps.Proofs.Token.Lines
import ScriptSteps.Proofs.Token.Kinds
import ScriptSteps.Proofs.Token.Breaks
import ScriptSteps.Proofs.Token.Appended
import ScriptSteps.Proofs.Token.Literals
import ScriptSteps.Proofs.Token.Scanned
import ScriptSteps.Proofs.Text.Inline
import ScriptSteps.Proofs.Token.Tiling
import ScriptSteps.Proofs.Token.LineEnds
import ScriptSteps.Proofs.Token.LineNumbers
import ScriptSteps.Proofs.Token.Spaced
import ScriptSteps.Proofs.Tree.Level
import ScriptSteps.Proofs.Tree.Shape
import ScriptSteps.Proofs.Tree.Written
import ScriptSteps.Proofs.Tree.Operands
import ScriptSteps.Proofs.Tree.Tidy
import ScriptSteps.Proofs.Tree.Leaves
import ScriptSteps.Proofs.Token.Strings
import ScriptSteps.Proofs.Tree.Lines
import ScriptSteps.Proofs.Tree.Moved
import ScriptSteps.Proofs.Grammar.Reads
import ScriptSteps.Proofs.Grammar.Spans
import ScriptSteps.Proofs.Grammar.Blames
import ScriptSteps.Proofs.Grammar.ExpressionShape
import ScriptSteps.Proofs.Grammar.StatementShape
import ScriptSteps.Proofs.Grammar.WellShaped
import ScriptSteps.Proofs.Grammar.RoundTrip
import ScriptSteps.Proofs.Grammar.ForHeader
import ScriptSteps.Proofs.Grammar.Cascade
import ScriptSteps.Proofs.Grammar.Crosses
import ScriptSteps.Proofs.Grammar.Brackets
import ScriptSteps.Proofs.Grammar.Derivation
import ScriptSteps.Proofs.Grammar.Inversion
import ScriptSteps.Proofs.Grammar.Places
import ScriptSteps.Proofs.Grammar.Fused
import ScriptSteps.Proofs.Grammar.Surroundings
import ScriptSteps.Proofs.Grammar.Ungrouped
import ScriptSteps.Proofs.Grammar.Joint
import ScriptSteps.Proofs.Grammar.Seam
import ScriptSteps.Proofs.Grammar.Joined
import ScriptSteps.Proofs.Token.Front
import ScriptSteps.Proofs.Grammar.Parenthesized
import ScriptSteps.Proofs.Grammar.Membership
import ScriptSteps.Proofs.Grammar.ForIn
import ScriptSteps.Proofs.Grammar.Loops
import ScriptSteps.Proofs.Session.Continuation
import ScriptSteps.Proofs.Step.Lines
import ScriptSteps.Proofs.Step.Walk
import ScriptSteps.Proofs.Step.Outline
import ScriptSteps.Proofs.Step.Nesting
import ScriptSteps.Proofs.Step.Texts
import ScriptSteps.Proofs.Step.LineBreaks
import ScriptSteps.Proofs.Step.Appended
import ScriptSteps.Proofs.Report.Table
import ScriptSteps.Proofs.Report.Color
import ScriptSteps.Proofs.Json.Reads
import ScriptSteps.Proofs.Step.Json
import ScriptSteps.Proofs.Grammar.Constants
import ScriptSteps.Proofs.Grammar.Ladder
import ScriptSteps.Proofs.Grammar.StatementEnds
import ScriptSteps.Proofs.Session.Isolation
import ScriptSteps.Proofs.Settings.Layers
import ScriptSteps.Proofs.Settings.Order
import ScriptSteps.Proofs.Session.Highlight
import ScriptSteps.Proofs.Session.Completion
import ScriptSteps.Proofs.Step.Chains
import ScriptSteps.Proofs.Step.Braces
