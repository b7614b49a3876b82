import NamespaceManifest.Block.Basic
import NamespaceManifest.Block.Document
import NamespaceManifest.Block.Issue
import NamespaceManifest.Block.Load
import NamespaceManifest.Build
import NamespaceManifest.Calendar
import NamespaceManifest.CommandLine.Footprint
import NamespaceManifest.CommandLine.Option
import NamespaceManifest.CommandLine.Parse
import NamespaceManifest.CommandLine.Run
import NamespaceManifest.Config
import NamespaceManifest.Diff
import NamespaceManifest.Directive.Kind
import NamespaceManifest.Directive.Line
import NamespaceManifest.Directive.Name
import NamespaceManifest.Directive.Pass
import NamespaceManifest.Directive.Resolve
import NamespaceManifest.Environment
import NamespaceManifest.Error
import NamespaceManifest.Evaluation.Basic
import NamespaceManifest.Evaluation.Builtin
import NamespaceManifest.Evaluation.Fragment
import NamespaceManifest.Evaluation.Module
import NamespaceManifest.Evaluation.Token
import NamespaceManifest.File.Path
import NamespaceManifest.File.Tree
import NamespaceManifest.Json.Printer
import NamespaceManifest.Json.Reader
import NamespaceManifest.Log
import NamespaceManifest.Main
import NamespaceManifest.Manifest.Compiler
import NamespaceManifest.Manifest.Writer
import NamespaceManifest.Number.Integer
import NamespaceManifest.Number.Reading
import NamespaceManifest.Number.Real
import NamespaceManifest.Number.Shortest
import NamespaceManifest.Service
import NamespaceManifest.Tag.Shape
import NamespaceManifest.Tag.Value
import NamespaceManifest.Text.Alphanumeric
import NamespaceManifest.Text.Blank
import NamespaceManifest.Text.Composition
import NamespaceManifest.Text.Decomposition
import NamespaceManifest.Text.Digit
import NamespaceManifest.Text.Encoding
import NamespaceManifest.Text.Identifier
import NamespaceManifest.Text.Lines
import NamespaceManifest.Text.Literal
import NamespaceManifest.Text.Printable
import NamespaceManifest.Text.Quoted
import NamespaceManifest.Text.Range
import NamespaceManifest.Text.Table
import NamespaceManifest.Text.Utf8
import NamespaceManifest.Value.Basic
import NamespaceManifest.Value.Display
import NamespaceManifest.Work
import NamespaceManifest.Yaml.Cursor
import NamespaceManifest.Yaml.Document
import NamespaceManifest.Yaml.Failure
import NamespaceManifest.Yaml.Scalar
import NamespaceManifest.Yaml.ScalarText
import NamespaceManifest.Yaml.Token
import NamespaceManifest.Proofs.Steps
import NamespaceManifest.Proofs.File.Tree
import NamespaceManifest.Proofs.Text.Decoding
import NamespaceManifest.Proofs.Text.Lines
import NamespaceManifest.Proofs.Text.Words
import NamespaceManifest.Proofs.Work
import NamespaceManifest.Proofs.Manifest.Reading
import NamespaceManifest.Proofs.Manifest.Writing
import NamespaceManifest.Proofs.Manifest.LineEnding
import NamespaceManifest.Proofs.Manifest.Ownership
import NamespaceManifest.Proofs.Manifest.Stage
import NamespaceManifest.Proofs.Directive.Shape
import NamespaceManifest.Proofs.Directive.Resolve
import NamespaceManifest.Proofs.Directive.Pass
import NamespaceManifest.Proofs.Block.Document
import NamespaceManifest.Proofs.Value
import NamespaceManifest.Proofs.Block.Fault
import NamespaceManifest.Proofs.Block.Grammar
import NamespaceManifest.Proofs.Block.Partition
import NamespaceManifest.Proofs.Directive.Account
import NamespaceManifest.Proofs.Directive.Merge
import NamespaceManifest.Proofs.Build.Passes
import NamespaceManifest.Proofs.Build.Foreign
import NamespaceManifest.Proofs.Build.Failure
import NamespaceManifest.Proofs.Build.History
import NamespaceManifest.Proofs.Build.Rebuild
import NamespaceManifest.Proofs.Build.Survival
import NamespaceManifest.Proofs.Directive.SingleLine
import NamespaceManifest.Proofs.Directive.Rearranged
import NamespaceManifest.Proofs.Directive.Essence
import NamespaceManifest.Proofs.Directive.ImportFamily
import NamespaceManifest.Proofs.Directive.Union
import NamespaceManifest.Proofs.Directive.SourceOrder
import NamespaceManifest.Proofs.Text.Quoted
import NamespaceManifest.Proofs.Directive.Call
import NamespaceManifest.Proofs.Directive.ImportLine
import NamespaceManifest.Proofs.Directive.Token
import NamespaceManifest.Proofs.Diff
import NamespaceManifest.Proofs.Build.ImportPass
import NamespaceManifest.Proofs.Build.DryRun
import NamespaceManifest.Proofs.Build.Rehearsal
import NamespaceManifest.Proofs.Build.Loading
import NamespaceManifest.Proofs.Build.Marker
import NamespaceManifest.Proofs.Build.Footprint
import NamespaceManifest.Proofs.CommandLine.Escape
import NamespaceManifest.Proofs.Json.Reader
import NamespaceManifest.Proofs.Service
