import TwinRun.Artifact
import TwinRun.Bytes
import TwinRun.Case
import TwinRun.CommandLine.Arguments
import TwinRun.CommandLine.Fatal
import TwinRun.CommandLine.Flag
import TwinRun.CommandLine.Help
import TwinRun.CommandLine.Problem
import TwinRun.CommandLine.Similar
import TwinRun.Comparison
import TwinRun.Config.Basic
import TwinRun.Config.Yaml
import TwinRun.Diff.Align
import TwinRun.Diff.Common
import TwinRun.Diff.Edit
import TwinRun.Diff.Hunk
import TwinRun.Diff.Merge
import TwinRun.Diff.Script
import TwinRun.Diff.Words
import TwinRun.Discovery
import TwinRun.ExitStatus
import TwinRun.Fault
import TwinRun.Harness
import TwinRun.Log
import TwinRun.Main
import TwinRun.Path
import TwinRun.Pipeline
import TwinRun.Program
import TwinRun.Proofs.Artifact
import TwinRun.Proofs.Breaks
import TwinRun.Proofs.Capture
import TwinRun.Proofs.Cases
import TwinRun.Proofs.Cleaning
import TwinRun.Proofs.CommandLine.Request
import TwinRun.Proofs.CommandLine.Spelling
import TwinRun.Proofs.Comparison
import TwinRun.Proofs.Config.Described
import TwinRun.Proofs.Config.Layers
import TwinRun.Proofs.Config.Reading
import TwinRun.Proofs.Config.Rearranged
import TwinRun.Proofs.Diff.Additions
import TwinRun.Proofs.Diff.Align
import TwinRun.Proofs.Diff.Blocks
import TwinRun.Proofs.Diff.Checked
import TwinRun.Proofs.Diff.CommonSubsequence
import TwinRun.Proofs.Diff.Context
import TwinRun.Proofs.Diff.Detour
import TwinRun.Proofs.Diff.Ends
import TwinRun.Proofs.Diff.Grouping
import TwinRun.Proofs.Diff.Hunk
import TwinRun.Proofs.Diff.Longest
import TwinRun.Proofs.Diff.Merge
import TwinRun.Proofs.Diff.Minimal
import TwinRun.Proofs.Diff.Names
import TwinRun.Proofs.Diff.OneBlock
import TwinRun.Proofs.Diff.Passes
import TwinRun.Proofs.Diff.Patch
import TwinRun.Proofs.Diff.Script
import TwinRun.Proofs.Diff.Spans
import TwinRun.Proofs.Diff.Table
import TwinRun.Proofs.Diff.Whole
import TwinRun.Proofs.Diff.Widening
import TwinRun.Proofs.Diff.Windows
import TwinRun.Proofs.Diff.Words
import TwinRun.Proofs.Discovery
import TwinRun.Proofs.Harness
import TwinRun.Proofs.Interruption
import TwinRun.Proofs.Path
import TwinRun.Proofs.Phases
import TwinRun.Proofs.Pipeline
import TwinRun.Proofs.Program
import TwinRun.Proofs.Report.Console
import TwinRun.Proofs.Report.Decoding
import TwinRun.Proofs.Report.Reading
import TwinRun.Proofs.Scratch
import TwinRun.Proofs.System.Host
import TwinRun.Proofs.System.Making
import TwinRun.Proofs.System.Operations
import TwinRun.Proofs.System.Passing
import TwinRun.Proofs.System.Store
import TwinRun.Proofs.System.Walking
import TwinRun.Proofs.System.World
import TwinRun.Proofs.Text.Cuts
import TwinRun.Proofs.Text.Decimal
import TwinRun.Proofs.Text.Decoding
import TwinRun.Proofs.Text.IllFormed
import TwinRun.Proofs.Text.Lines
import TwinRun.Proofs.Text.Parts
import TwinRun.Proofs.Text.Splitting
import TwinRun.Proofs.Yaml.Reading
import TwinRun.Proofs.Yaml.Tree
import TwinRun.Report.Console
import TwinRun.Report.Sink
import TwinRun.Scratch
import TwinRun.Script.Arguments
import TwinRun.Script.Arithmetic
import TwinRun.Script.Builtin
import TwinRun.Script.Condition
import TwinRun.Script.Directory
import TwinRun.Script.Evaluate
import TwinRun.Script.Expand
import TwinRun.Script.Fields
import TwinRun.Script.Lexer
import TwinRun.Script.Machine
import TwinRun.Script.Parser
import TwinRun.Script.Pattern
import TwinRun.Script.Print
import TwinRun.Script.Process
import TwinRun.Script.Read
import TwinRun.Script.Reader
import TwinRun.Script.Redirect
import TwinRun.Script.Settings
import TwinRun.Script.Shell
import TwinRun.Script.Signal
import TwinRun.Script.State
import TwinRun.Script.Syntax
import TwinRun.Script.Token
import TwinRun.Stage
import TwinRun.System.Files
import TwinRun.System.Host
import TwinRun.System.Invocation
import TwinRun.System.Kernel
import TwinRun.System.Layout
import TwinRun.System.World
import TwinRun.SystemError
import TwinRun.Text.Alphanumeric
import TwinRun.Text.BinaryFraction
import TwinRun.Text.Blank
import TwinRun.Text.BreakClass
import TwinRun.Text.CodeRanges
import TwinRun.Text.Columns
import TwinRun.Text.Decimal
import TwinRun.Text.Escape
import TwinRun.Text.Integer
import TwinRun.Text.Letters
import TwinRun.Text.Line
import TwinRun.Text.LineBreak
import TwinRun.Text.Lossy
import TwinRun.Text.Printable
import TwinRun.Text.Quoted
import TwinRun.Text.RegexSyntax
import TwinRun.Text.Wrap
import TwinRun.Tool.Basic
import TwinRun.Tool.Catalogue
import TwinRun.Tool.Columns
import TwinRun.Tool.Condition
import TwinRun.Tool.Count
import TwinRun.Tool.Environment
import TwinRun.Tool.Expression
import TwinRun.Tool.Format
import TwinRun.Tool.Grep
import TwinRun.Tool.Inspect
import TwinRun.Tool.Key
import TwinRun.Tool.Lines
import TwinRun.Tool.Names
import TwinRun.Tool.Order
import TwinRun.Tool.Print
import TwinRun.Tool.Regex.Basic
import TwinRun.Tool.Regex.Reader
import TwinRun.Tool.Relay
import TwinRun.Tool.Sed.Basic
import TwinRun.Tool.Sed.Editor
import TwinRun.Tool.Sed.Program
import TwinRun.Tool.Sed.Reader
import TwinRun.Tool.Sequence
import TwinRun.Tool.Store
import TwinRun.Tool.Translate
import TwinRun.Word
import TwinRun.Yaml.Chars
import TwinRun.Yaml.Layout
import TwinRun.Yaml.Node
import TwinRun.Yaml.Property
import TwinRun.Yaml.Scalar
import TwinRun.Yaml.Token
import TwinRun.Yaml.Value
