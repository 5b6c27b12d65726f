import AssetAudit.Analyzer.Run
import AssetAudit.Analyzer.Shell
import AssetAudit.App.Session
import AssetAudit.App.Target
import AssetAudit.CommandLine.Logging
import AssetAudit.CommandLine.Options
import AssetAudit.CommandLine.Run
import AssetAudit.CommandLine.Snapshot
import AssetAudit.Console.Block
import AssetAudit.Console.Layout
import AssetAudit.Console.Markup
import AssetAudit.Console.Picture
import AssetAudit.Console.Pictures
import AssetAudit.Console.Style
import AssetAudit.Console.Table
import AssetAudit.Decimal.Binary
import AssetAudit.Decimal.Read
import AssetAudit.Decimal.Shortest
import AssetAudit.FileSize
import AssetAudit.Files.Collect
import AssetAudit.Files.Error
import AssetAudit.Files.Ignore
import AssetAudit.Files.Tree
import AssetAudit.Files.Write
import AssetAudit.Findings.Basic
import AssetAudit.Findings.Filter
import AssetAudit.Json.Error
import AssetAudit.Json.Read
import AssetAudit.Json.Write
import AssetAudit.Main
import AssetAudit.Notice
import AssetAudit.Path.FilePath
import AssetAudit.Path.Lexical
import AssetAudit.Project
import AssetAudit.Proofs.Analyzer.Answers
import AssetAudit.Proofs.Analyzer.Attempts
import AssetAudit.Proofs.Analyzer.Commands
import AssetAudit.Proofs.Analyzer.Survival
import AssetAudit.Proofs.App.Checks
import AssetAudit.Proofs.App.Keys
import AssetAudit.Proofs.App.Listing
import AssetAudit.Proofs.App.Session
import AssetAudit.Proofs.App.Target
import AssetAudit.Proofs.CommandLine.Analysis
import AssetAudit.Proofs.CommandLine.Batch
import AssetAudit.Proofs.CommandLine.Documents
import AssetAudit.Proofs.CommandLine.Endings
import AssetAudit.Proofs.CommandLine.Preparation
import AssetAudit.Proofs.Console.Lines
import AssetAudit.Proofs.Console.Marks
import AssetAudit.Proofs.Console.Printing
import AssetAudit.Proofs.Decimal.Halves
import AssetAudit.Proofs.Decimal.Nearest
import AssetAudit.Proofs.Decimal.Rounding
import AssetAudit.Proofs.Decimal.Shortest
import AssetAudit.Proofs.FileSize.Amounts
import AssetAudit.Proofs.FileSize.Figures
import AssetAudit.Proofs.Files.Additions
import AssetAudit.Proofs.Files.Contents
import AssetAudit.Proofs.Files.Growth
import AssetAudit.Proofs.Files.Links
import AssetAudit.Proofs.Files.Places
import AssetAudit.Proofs.Files.Reordered
import AssetAudit.Proofs.Files.Saving
import AssetAudit.Proofs.Files.Traversal
import AssetAudit.Proofs.Files.Walk
import AssetAudit.Proofs.Files.Ways
import AssetAudit.Proofs.Files.Whole
import AssetAudit.Proofs.Files.Writing
import AssetAudit.Proofs.Findings.Banners
import AssetAudit.Proofs.Findings.Output
import AssetAudit.Proofs.Findings.Reports
import AssetAudit.Proofs.Json.Documents
import AssetAudit.Proofs.Json.Numerals
import AssetAudit.Proofs.Json.RoundTrip
import AssetAudit.Proofs.Json.Spellings
import AssetAudit.Proofs.Json.Strings
import AssetAudit.Proofs.Outcomes
import AssetAudit.Proofs.Path.Inside
import AssetAudit.Proofs.Path.Outside
import AssetAudit.Proofs.Path.Spelling
import AssetAudit.Proofs.Project.Analysis
import AssetAudit.Proofs.Project.Assets
import AssetAudit.Proofs.Project.Batch
import AssetAudit.Proofs.Project.Bytes
import AssetAudit.Proofs.Project.Calls
import AssetAudit.Proofs.Project.Documents
import AssetAudit.Proofs.Project.Evidence
import AssetAudit.Proofs.Project.Failures
import AssetAudit.Proofs.Project.Stages
import AssetAudit.Proofs.Project.Workplaces
import AssetAudit.Proofs.Regex.Ends
import AssetAudit.Proofs.Regex.Leaves
import AssetAudit.Proofs.Regex.Openings
import AssetAudit.Proofs.Regex.Parts
import AssetAudit.Proofs.Regex.Pieces
import AssetAudit.Proofs.Regex.Reads
import AssetAudit.Proofs.Regex.Steps
import AssetAudit.Proofs.Regex.Tokens
import AssetAudit.Proofs.Regex.Written
import AssetAudit.Proofs.Report.Documents
import AssetAudit.Proofs.Report.Shown
import AssetAudit.Proofs.Report.Totals
import AssetAudit.Proofs.Settings.Faults
import AssetAudit.Proofs.Settings.Forms
import AssetAudit.Proofs.Settings.Given
import AssetAudit.Proofs.Settings.Layers
import AssetAudit.Proofs.Settings.Merged
import AssetAudit.Proofs.Settings.Nulls
import AssetAudit.Proofs.Settings.Overlays
import AssetAudit.Proofs.Settings.Precedence
import AssetAudit.Proofs.Settings.RoundTrip
import AssetAudit.Proofs.Settings.Sections
import AssetAudit.Proofs.Text.Digits
import AssetAudit.Proofs.Text.Printed
import AssetAudit.Proofs.Text.Sort
import AssetAudit.Proofs.Usage.Fragments
import AssetAudit.Proofs.Usage.Placeholders
import AssetAudit.Proofs.Usage.Sources
import AssetAudit.Proofs.Usage.Stems
import AssetAudit.Proofs.Usage.Templates
import AssetAudit.Proofs.Value.Identity
import AssetAudit.Proofs.Value.Json
import AssetAudit.Proofs.Value.Orderly
import AssetAudit.Proofs.Whitelist.Accounts
import AssetAudit.Proofs.Whitelist.Buckets
import AssetAudit.Proofs.Whitelist.Coverage
import AssetAudit.Proofs.Whitelist.Globs
import AssetAudit.Proofs.Whitelist.Kinds
import AssetAudit.Proofs.Whitelist.Lookups
import AssetAudit.Proofs.Whitelist.Meanings
import AssetAudit.Proofs.Whitelist.Nesting
import AssetAudit.Proofs.Whitelist.Parentheses
import AssetAudit.Proofs.Whitelist.Places
import AssetAudit.Proofs.Whitelist.Readings
import AssetAudit.Proofs.Whitelist.Refusals
import AssetAudit.Proofs.Whitelist.Runs
import AssetAudit.Proofs.Whitelist.Shapes
import AssetAudit.Proofs.Whitelist.Slashes
import AssetAudit.Proofs.Whitelist.Spellings
import AssetAudit.Proofs.Whitelist.Verdicts
import AssetAudit.Proofs.Yaml.Documents
import AssetAudit.Regex.CharSet
import AssetAudit.Regex.Compile
import AssetAudit.Regex.Error
import AssetAudit.Regex.Escape
import AssetAudit.Regex.Expr
import AssetAudit.Regex.Match
import AssetAudit.Regex.Parse
import AssetAudit.Regex.Token
import AssetAudit.Report.Basic
import AssetAudit.Report.View
import AssetAudit.Settings.Basic
import AssetAudit.Settings.Defaults
import AssetAudit.Settings.Definitions
import AssetAudit.Settings.Environment
import AssetAudit.Settings.Error
import AssetAudit.Settings.File
import AssetAudit.Settings.Load
import AssetAudit.Settings.Read
import AssetAudit.Text.Basic
import AssetAudit.Text.Quoted
import AssetAudit.Text.Utf8
import AssetAudit.Unicode.Blank
import AssetAudit.Unicode.Boundaries
import AssetAudit.Unicode.Case
import AssetAudit.Unicode.Cells
import AssetAudit.Unicode.Identifiers
import AssetAudit.Unicode.Names
import AssetAudit.Unicode.Names.Aliases
import AssetAudit.Unicode.Names.Alphabets
import AssetAudit.Unicode.Names.Pictures
import AssetAudit.Unicode.Names.Scripts
import AssetAudit.Unicode.Names.Signs
import AssetAudit.Unicode.Names.Syllables
import AssetAudit.Unicode.Printable
import AssetAudit.Unicode.Words
import AssetAudit.Usage.References
import AssetAudit.Usage.Sources
import AssetAudit.Value.Basic
import AssetAudit.Value.Show
import AssetAudit.Whitelist.Compiled
import AssetAudit.Whitelist.Gate
import AssetAudit.Whitelist.Matcher
import AssetAudit.Whitelist.Pattern
import AssetAudit.Yaml.Error
import AssetAudit.Yaml.Node
import AssetAudit.Yaml.Read
import AssetAudit.Yaml.Resolve
import AssetAudit.Yaml.Scalar
import AssetAudit.Yaml.Source
import AssetAudit.Yaml.Style
import AssetAudit.Yaml.Token.Read
import AssetAudit.Yaml.Token.Scalar
import AssetAudit.Yaml.Write
