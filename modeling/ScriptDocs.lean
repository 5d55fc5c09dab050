import ScriptDocs.Artifact
import ScriptDocs.Batch
import ScriptDocs.CommandLine.Clock
import ScriptDocs.CommandLine.Options
import ScriptDocs.CommandLine.Run
import ScriptDocs.CommandLine.Usage
import ScriptDocs.Comment.Annotation
import ScriptDocs.Comment.Argument
import ScriptDocs.Comment.Block
import ScriptDocs.Comment.Function
import ScriptDocs.Comment.Pending
import ScriptDocs.Decimal.Double
import ScriptDocs.Decimal.Shortest
import ScriptDocs.Document.Basic
import ScriptDocs.Document.Builder
import ScriptDocs.Document.Json
import ScriptDocs.Document.ValueType
import ScriptDocs.Extraction
import ScriptDocs.FileTree.Basic
import ScriptDocs.FileTree.Discovery
import ScriptDocs.FileTree.Failure
import ScriptDocs.FileTree.Path
import ScriptDocs.Json.Nesting
import ScriptDocs.Json.Reader
import ScriptDocs.Json.Value
import ScriptDocs.Json.Writer
import ScriptDocs.Loading
import ScriptDocs.Log.Journal
import ScriptDocs.Log.Record
import ScriptDocs.Main
import ScriptDocs.Proofs.Artifact
import ScriptDocs.Proofs.Artifact.Naming
import ScriptDocs.Proofs.Batch
import ScriptDocs.Proofs.CommandLine.Accounts
import ScriptDocs.Proofs.CommandLine.Directory
import ScriptDocs.Proofs.CommandLine.Exit
import ScriptDocs.Proofs.Comment
import ScriptDocs.Proofs.Comment.Annotation
import ScriptDocs.Proofs.Comment.Argument
import ScriptDocs.Proofs.Comment.Directives
import ScriptDocs.Proofs.Comment.Pending
import ScriptDocs.Proofs.Comment.Rendering
import ScriptDocs.Proofs.Document
import ScriptDocs.Proofs.Extraction.About
import ScriptDocs.Proofs.Extraction.Accounting
import ScriptDocs.Proofs.Extraction.Appending
import ScriptDocs.Proofs.Extraction.Attachment
import ScriptDocs.Proofs.Extraction.Cleaning
import ScriptDocs.Proofs.Extraction.Layout
import ScriptDocs.Proofs.Extraction.LintDirectives
import ScriptDocs.Proofs.Extraction.Privacy
import ScriptDocs.Proofs.Extraction.Quoting
import ScriptDocs.Proofs.Extraction.Reading
import ScriptDocs.Proofs.Extraction.Rendering
import ScriptDocs.Proofs.Extraction.Resumption
import ScriptDocs.Proofs.Extraction.Step
import ScriptDocs.Proofs.Extraction.Tracking
import ScriptDocs.Proofs.Extraction.Typing
import ScriptDocs.Proofs.Extraction.WellFormed
import ScriptDocs.Proofs.FileTree
import ScriptDocs.Proofs.FileTree.Discovery
import ScriptDocs.Proofs.FileTree.Growth
import ScriptDocs.Proofs.FileTree.Listing
import ScriptDocs.Proofs.FileTree.Normalization
import ScriptDocs.Proofs.FileTree.Writing
import ScriptDocs.Proofs.Json
import ScriptDocs.Proofs.Json.Nesting
import ScriptDocs.Proofs.Loading
import ScriptDocs.Proofs.Log.Readiness
import ScriptDocs.Proofs.Script
import ScriptDocs.Proofs.Script.Cursor
import ScriptDocs.Proofs.Script.Grammar
import ScriptDocs.Proofs.Settings.Fields
import ScriptDocs.Proofs.Settings.Mapping
import ScriptDocs.Proofs.Settings.Resolution
import ScriptDocs.Proofs.Settings.Strictness
import ScriptDocs.Proofs.Text
import ScriptDocs.Proofs.Text.Numeral
import ScriptDocs.Proofs.Text.Utf8
import ScriptDocs.Proofs.Value.Pool
import ScriptDocs.Script.Declaration
import ScriptDocs.Script.LineKind
import ScriptDocs.Script.Lines
import ScriptDocs.Settings.Basic
import ScriptDocs.Settings.Decoding
import ScriptDocs.Settings.Loading
import ScriptDocs.Text.Basic
import ScriptDocs.Text.Blank
import ScriptDocs.Text.Case
import ScriptDocs.Text.Cased
import ScriptDocs.Text.Digit
import ScriptDocs.Text.Lower
import ScriptDocs.Text.Numeral
import ScriptDocs.Text.Printable
import ScriptDocs.Text.Quoted
import ScriptDocs.Text.Utf8
import ScriptDocs.Value.Basic
import ScriptDocs.Value.Calendar
import ScriptDocs.Value.Literal
import ScriptDocs.Value.Placement
import ScriptDocs.Value.Pool
import ScriptDocs.Yaml.Fault
import ScriptDocs.Yaml.Node
import ScriptDocs.Yaml.Node.Merge
import ScriptDocs.Yaml.Node.Parser
import ScriptDocs.Yaml.Node.Value
import ScriptDocs.Yaml.Scalar
import ScriptDocs.Yaml.Tag
import ScriptDocs.Yaml.Timestamp
import ScriptDocs.Yaml.Token
import ScriptDocs.Yaml.Token.Cursor
import ScriptDocs.Yaml.Token.Lexer
import ScriptDocs.Yaml.Token.Property
import ScriptDocs.Yaml.Token.Scalar
