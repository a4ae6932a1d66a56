import NegativeCompile.Artifact
import NegativeCompile.Attribution
import NegativeCompile.CommandLine
import NegativeCompile.CommandLine.Command
import NegativeCompile.CommandLine.Commands
import NegativeCompile.CommandLine.Help
import NegativeCompile.CommandLine.Reader
import NegativeCompile.CommandLine.Values
import NegativeCompile.Compiling
import NegativeCompile.Console
import NegativeCompile.Datum
import NegativeCompile.Datum.Hash
import NegativeCompile.Datum.SlotTable
import NegativeCompile.Datum.Written
import NegativeCompile.Diagnostic
import NegativeCompile.Diagnostic.Reader
import NegativeCompile.Dialect
import NegativeCompile.Dialect.Guarded
import NegativeCompile.Dialect.Header
import NegativeCompile.Dialect.Inline
import NegativeCompile.Extension
import NegativeCompile.Failure
import NegativeCompile.Files.Access
import NegativeCompile.Files.Glob
import NegativeCompile.Files.Path
import NegativeCompile.Files.Tree
import NegativeCompile.Files.Walk
import NegativeCompile.Fragment
import NegativeCompile.Harness
import NegativeCompile.Job
import NegativeCompile.Json
import NegativeCompile.Json.Reader
import NegativeCompile.Json.Writer
import NegativeCompile.Launching
import NegativeCompile.Literal.Expression
import NegativeCompile.Literal.Expression.Reader
import NegativeCompile.Literal.Formatted
import NegativeCompile.Literal.Token
import NegativeCompile.Main
import NegativeCompile.Number.Binary64
import NegativeCompile.Number.Binary64.Reader
import NegativeCompile.Number.Binary64.Written
import NegativeCompile.Outcome
import NegativeCompile.Proofs.Action
import NegativeCompile.Proofs.Artifact.Clearing
import NegativeCompile.Proofs.Artifact.Rendering
import NegativeCompile.Proofs.Artifact.Shaping
import NegativeCompile.Proofs.Artifact.Splicing
import NegativeCompile.Proofs.Artifact.StringLiterals
import NegativeCompile.Proofs.Artifact.SuiteNames
import NegativeCompile.Proofs.Artifact.Suites
import NegativeCompile.Proofs.Artifact.Vouching
import NegativeCompile.Proofs.Diagnostic.Interleaving
import NegativeCompile.Proofs.Diagnostic.Mistaking
import NegativeCompile.Proofs.Diagnostic.Recognizing
import NegativeCompile.Proofs.Diagnostic.Rendered
import NegativeCompile.Proofs.Dialect.Bootstrapping
import NegativeCompile.Proofs.Dialect.CaseNames
import NegativeCompile.Proofs.Dialect.Headers
import NegativeCompile.Proofs.Dialect.ListLiterals
import NegativeCompile.Proofs.Dialect.Ranking
import NegativeCompile.Proofs.Except
import NegativeCompile.Proofs.Files.Ascending
import NegativeCompile.Proofs.Files.Growing
import NegativeCompile.Proofs.Files.Leading
import NegativeCompile.Proofs.Files.Matching
import NegativeCompile.Proofs.Files.PathParts
import NegativeCompile.Proofs.Files.PathTexts
import NegativeCompile.Proofs.Files.Persisting
import NegativeCompile.Proofs.Files.Reaching
import NegativeCompile.Proofs.Files.Refiling
import NegativeCompile.Proofs.Files.Resolving
import NegativeCompile.Proofs.Files.Rewriting
import NegativeCompile.Proofs.Files.Walking
import NegativeCompile.Proofs.Guarded.Branches
import NegativeCompile.Proofs.Guarded.Closing
import NegativeCompile.Proofs.Guarded.Detecting
import NegativeCompile.Proofs.Guarded.Headings
import NegativeCompile.Proofs.Guarded.Nesting
import NegativeCompile.Proofs.Guarded.WrittenTests
import NegativeCompile.Proofs.Inline.Completeness
import NegativeCompile.Proofs.Inline.Demands
import NegativeCompile.Proofs.Inline.Locating
import NegativeCompile.Proofs.Inline.Markers
import NegativeCompile.Proofs.Inline.Numbering
import NegativeCompile.Proofs.Inline.ReadingOrder
import NegativeCompile.Proofs.Job.Activating
import NegativeCompile.Proofs.Job.Clashing
import NegativeCompile.Proofs.Job.JobFiles
import NegativeCompile.Proofs.Job.Keys
import NegativeCompile.Proofs.Job.Planning
import NegativeCompile.Proofs.Lists
import NegativeCompile.Proofs.Report.Emitting
import NegativeCompile.Proofs.Report.Reporting
import NegativeCompile.Proofs.Report.Telling
import NegativeCompile.Proofs.Run.Aborting
import NegativeCompile.Proofs.Run.Accounting
import NegativeCompile.Proofs.Run.Agreeing
import NegativeCompile.Proofs.Run.Collecting
import NegativeCompile.Proofs.Run.ExitCode
import NegativeCompile.Proofs.Run.Filtering
import NegativeCompile.Proofs.Run.Isolating
import NegativeCompile.Proofs.Run.Judging
import NegativeCompile.Proofs.Run.Loaded
import NegativeCompile.Proofs.Run.Repeating
import NegativeCompile.Proofs.Run.Rereading
import NegativeCompile.Proofs.Run.Rerunning
import NegativeCompile.Proofs.Run.Scheduling
import NegativeCompile.Proofs.Run.Settling
import NegativeCompile.Proofs.Run.Singling
import NegativeCompile.Proofs.Run.Sparing
import NegativeCompile.Proofs.Schema.Following
import NegativeCompile.Proofs.Schema.Ordering
import NegativeCompile.Proofs.Schema.Showing
import NegativeCompile.Proofs.Settings.Assembling
import NegativeCompile.Proofs.Settings.Bounding
import NegativeCompile.Proofs.Settings.Checking
import NegativeCompile.Proofs.Settings.Configuring
import NegativeCompile.Proofs.Settings.Converting
import NegativeCompile.Proofs.Settings.Expanding
import NegativeCompile.Proofs.Settings.Finding
import NegativeCompile.Proofs.Settings.Uniting
import NegativeCompile.Proofs.Text.Escaping
import NegativeCompile.Proofs.Text.Lines
import NegativeCompile.Proofs.Text.Words
import NegativeCompile.Proofs.Verdict.Accepting
import NegativeCompile.Proofs.Verdict.LiningUp
import NegativeCompile.Proofs.Verdict.Reasons
import NegativeCompile.Proofs.Verdict.Reordering
import NegativeCompile.Proofs.Verdict.Searching
import NegativeCompile.Proofs.Verdict.Tractable
import NegativeCompile.Recording
import NegativeCompile.Regex.CharClass
import NegativeCompile.Regex.Pattern
import NegativeCompile.Regex.Reader
import NegativeCompile.Regex.Search
import NegativeCompile.Regex.Token
import NegativeCompile.Report
import NegativeCompile.Report.Document
import NegativeCompile.Report.Terminal
import NegativeCompile.Running
import NegativeCompile.Schema
import NegativeCompile.Settings
import NegativeCompile.Settings.Loading
import NegativeCompile.Settings.Reader
import NegativeCompile.Testing
import NegativeCompile.Testing.Call
import NegativeCompile.Testing.Collection
import NegativeCompile.Testing.Item
import NegativeCompile.Testing.Keyword
import NegativeCompile.Testing.SettingsFile
import NegativeCompile.Text.Alphanumeric
import NegativeCompile.Text.Blank
import NegativeCompile.Text.Casing
import NegativeCompile.Text.CharacterName
import NegativeCompile.Text.CharacterName.Computed
import NegativeCompile.Text.CharacterName.EastAsian
import NegativeCompile.Text.CharacterName.Letters
import NegativeCompile.Text.CharacterName.Other
import NegativeCompile.Text.CharacterName.Rare
import NegativeCompile.Text.CharacterName.Row
import NegativeCompile.Text.CharacterName.Symbols
import NegativeCompile.Text.Hex
import NegativeCompile.Text.Identifier
import NegativeCompile.Text.Integer
import NegativeCompile.Text.Printable
import NegativeCompile.Text.Quoted
import NegativeCompile.Text.Ranges
import NegativeCompile.Text.ShellWords
import NegativeCompile.Text.Utf8
import NegativeCompile.Verdict
import NegativeCompile.Version
import NegativeCompile.Wildcard
import NegativeCompile.World
import NegativeCompile.Yaml.Assembly
import NegativeCompile.Yaml.Cursor
import NegativeCompile.Yaml.Node
import NegativeCompile.Yaml.Node.Reader
import NegativeCompile.Yaml.Reader
import NegativeCompile.Yaml.Scalar
import NegativeCompile.Yaml.Token
import NegativeCompile.Yaml.Token.Mark
import NegativeCompile.Yaml.Token.Reader
import NegativeCompile.Yaml.Token.Scalar
