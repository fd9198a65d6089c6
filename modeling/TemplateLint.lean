import TemplateLint.Arguments.Basic
import TemplateLint.Arguments.Clause
import TemplateLint.Arguments.Parser
import TemplateLint.Arguments.Usage
import TemplateLint.Calendar.Date
import TemplateLint.Console
import TemplateLint.Document.Dictionary
import TemplateLint.Document.Node
import TemplateLint.Error
import TemplateLint.FileSet
import TemplateLint.Files.FileSystem
import TemplateLint.Files.Path
import TemplateLint.Finding
import TemplateLint.Glob.Braces
import TemplateLint.Glob.Expansion
import TemplateLint.Glob.Pattern
import TemplateLint.Ignore.Rules
import TemplateLint.Ignore.Wildcard
import TemplateLint.Invocation
import TemplateLint.Json.Basic
import TemplateLint.Json.Parser
import TemplateLint.Json.Printer
import TemplateLint.Main
import TemplateLint.Process
import TemplateLint.Proofs.Calendar.Date
import TemplateLint.Proofs.Files.FileSystem
import TemplateLint.Proofs.Files.Path
import TemplateLint.Proofs.Files.Walk
import TemplateLint.Proofs.Json.RoundTrip
import TemplateLint.Proofs.Text.Lines
import TemplateLint.Proofs.Todo.History
import TemplateLint.Proofs.Todo.Live
import TemplateLint.Proofs.Todo.Log
import TemplateLint.Proofs.Todo.Pairing
import TemplateLint.Proofs.Todo.Reconcile
import TemplateLint.Proofs.Todo.Store
import TemplateLint.Regex.Basic
import TemplateLint.Regex.Expression
import TemplateLint.Regex.Meaning
import TemplateLint.Regex.Parser
import TemplateLint.Regex.Pattern
import TemplateLint.Regex.Program
import TemplateLint.Regex.Replacement
import TemplateLint.Regex.Search
import TemplateLint.Report.Basic
import TemplateLint.Report.External
import TemplateLint.Report.Json
import TemplateLint.Report.Pretty
import TemplateLint.Report.Registry
import TemplateLint.Resolution
import TemplateLint.Rules.Directive
import TemplateLint.Rules.Engine
import TemplateLint.Rules.Rule
import TemplateLint.Run
import TemplateLint.Script.Command
import TemplateLint.Script.Shell
import TemplateLint.Session
import TemplateLint.Settings.Discovery
import TemplateLint.Settings.Effective
import TemplateLint.Settings.Project
import TemplateLint.Text.Basic
import TemplateLint.Text.Content
import TemplateLint.Todo.Basic
import TemplateLint.Todo.Decay
import TemplateLint.Todo.Log
import TemplateLint.Todo.Pairing
import TemplateLint.Todo.Reconcile
import TemplateLint.Todo.Store
import TemplateLint.Toml.Parser
import TemplateLint.Toml.Scalar
import TemplateLint.Toml.Table
import TemplateLint.Unicode.Category
import TemplateLint.Unicode.CharSet
import TemplateLint.Unicode.Folding
import TemplateLint.Unicode.Lookup
import TemplateLint.Unicode.Property
import TemplateLint.Unicode.Script
import TemplateLint.Yaml.Cursor
import TemplateLint.Yaml.Document
import TemplateLint.Yaml.Scalar
import TemplateLint.Yaml.Token
import TemplateLint.Proofs.Files.Appearance
import TemplateLint.Proofs.Files.Listing
import TemplateLint.Proofs.Glob.Pattern
import TemplateLint.Proofs.Glob.Expansion
import TemplateLint.Proofs.Ignore.Rules
import TemplateLint.Proofs.Files.FileName
import TemplateLint.Proofs.Resolution
import TemplateLint.Proofs.Regex.Search
import TemplateLint.Proofs.Rules.Engine
import TemplateLint.Proofs.Run
import TemplateLint.Proofs.Todo.Adoption
import TemplateLint.Proofs.Settings.Effective
import TemplateLint.Proofs.Invocation
import TemplateLint.Proofs.Adoption
import TemplateLint.Proofs.Run.Trace
import TemplateLint.Proofs.Files.Overwrite
import TemplateLint.Proofs.Files.Growth
import TemplateLint.Proofs.Todo.Keyed
import TemplateLint.Proofs.Todo.Append
import TemplateLint.Proofs.Todo.Lengthening
import TemplateLint.Proofs.Run.Invariant
import TemplateLint.Proofs.Report.Delivery
import TemplateLint.Proofs.Run.Verdict
import TemplateLint.Proofs.Run.Apart
import TemplateLint.Proofs.Run.Independence
import TemplateLint.Proofs.Todo.Cleanup
import TemplateLint.Proofs.Run.Repair
import TemplateLint.Proofs.Preservation
import TemplateLint.Proofs.Json.Extension
import TemplateLint.Proofs.Todo.LogText
import TemplateLint.Proofs.Run.Saving
import TemplateLint.Proofs.Resolution.Law
import TemplateLint.Proofs.Resolution.Exclusion
import TemplateLint.Proofs.Run.Failure
import TemplateLint.Proofs.Failure
import TemplateLint.Proofs.Files.Relative
import TemplateLint.Proofs.Files.Detour
import TemplateLint.Proofs.Resolution.Identity
import TemplateLint.Proofs.Todo.Optimal
import TemplateLint.Proofs.Todo.Accounting
import TemplateLint.Proofs.Todo.Foreign
import TemplateLint.Proofs.Json.Indented
import TemplateLint.Proofs.Report.Entries
import TemplateLint.Proofs.Agreement
import TemplateLint.Proofs.Todo.Conservation
import TemplateLint.Proofs.Todo.Reordering
import TemplateLint.Proofs.Todo.Timeline
import TemplateLint.Proofs.Todo.Meaning
import TemplateLint.Proofs.Todo.Compaction
import TemplateLint.Proofs.Todo.Corruption
import TemplateLint.Proofs.Todo.Overdue
import TemplateLint.Proofs.Text.Pieces
import TemplateLint.Proofs.Glob.Braces
import TemplateLint.Proofs.Text.ByteOrder
import TemplateLint.Proofs.Text.Around
import TemplateLint.Proofs.Unicode.Words
import TemplateLint.Proofs.Regex.Reading
import TemplateLint.Proofs.Regex.Matches
import TemplateLint.Proofs.Regex.Within
import TemplateLint.Proofs.Rules.Placement
import TemplateLint.Proofs.Rules.Overlooked
import TemplateLint.Proofs.Rules.Directive
import TemplateLint.Proofs.Directive.Expression
import TemplateLint.Proofs.Directive.Progress
import TemplateLint.Proofs.Directive.Matches
import TemplateLint.Proofs.Glob.Plain
import TemplateLint.Proofs.Resolution.Projection
import TemplateLint.Proofs.Report.Several
import TemplateLint.Proofs.Report.Lossless
import TemplateLint.Proofs.Report.Rows
import TemplateLint.Proofs.Report.Accounts
import TemplateLint.Proofs.Document.Dictionary
import TemplateLint.Proofs.Settings.Precedence
import TemplateLint.Proofs.Files.Staying
import TemplateLint.Proofs.Todo.StorageKey
