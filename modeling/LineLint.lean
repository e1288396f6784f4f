import LineLint.Category
import LineLint.CommandLine
import LineLint.CommandLine.Boolean
import LineLint.CommandLine.Fault
import LineLint.CommandLine.Lint
import LineLint.CommandLine.Options
import LineLint.CommandLine.Output
import LineLint.CommandLine.RuleList
import LineLint.CommandLine.Words
import LineLint.Config
import LineLint.Config.Fault
import LineLint.Config.File
import LineLint.Config.Limits
import LineLint.Config.LooseNames
import LineLint.Config.Settings
import LineLint.Config.Value
import LineLint.Decimal
import LineLint.Decimal.Place
import LineLint.Decimal.Shortest
import LineLint.Files
import LineLint.Files.Tree
import LineLint.Glob
import LineLint.Glob.Bracket
import LineLint.Json
import LineLint.Json.Printer
import LineLint.Json.Reader
import LineLint.Line
import LineLint.Main
import LineLint.Masker
import LineLint.Masker.Rules
import LineLint.Masker.Run
import LineLint.Matcher.Basic
import LineLint.Matcher.Blanks
import LineLint.Matcher.Declaration
import LineLint.Matcher.Named
import LineLint.Matcher.Symbol
import LineLint.Matcher.TypeName
import LineLint.Path
import LineLint.Proofs.Line.Split
import LineLint.Proofs.Masking.Columns
import LineLint.Proofs.Masking.Grammar
import LineLint.Proofs.Masking.Hidden
import LineLint.Proofs.Masking.Invariant
import LineLint.Proofs.Masking.Leads
import LineLint.Proofs.Masking.Resting
import LineLint.Proofs.Masking.SourceLines
import LineLint.Proofs.Masking.Trees
import LineLint.Proofs.Masking.WholeText
import LineLint.Proofs.Masking.Words
import LineLint.Proofs.Matching.Places
import LineLint.Proofs.Scan.Findings
import LineLint.Proofs.Scan.Places
import LineLint.Proofs.Template.Placeholder
import LineLint.Proofs.Text.Search
import LineLint.Registry
import LineLint.Report
import LineLint.Report.Catalogue
import LineLint.Report.Listing
import LineLint.Report.Record
import LineLint.Rule
import LineLint.Rule.Builtin
import LineLint.Scan
import LineLint.Scan.File
import LineLint.Severity
import LineLint.Source
import LineLint.Template.Attribute
import LineLint.Template.Basic
import LineLint.Template.Describe
import LineLint.Template.Fault
import LineLint.Template.Fill
import LineLint.Template.Format
import LineLint.Template.Item
import LineLint.Template.Kind
import LineLint.Template.Member
import LineLint.Template.Member.Alias
import LineLint.Template.Member.Callable
import LineLint.Template.Member.Container
import LineLint.Template.Member.Kind
import LineLint.Template.Member.Number
import LineLint.Template.Member.Slot
import LineLint.Template.Member.Text
import LineLint.Template.Number
import LineLint.Template.Object
import LineLint.Template.Property
import LineLint.Template.Spec
import LineLint.Text.Ansi
import LineLint.Text.Blank
import LineLint.Text.DecimalDigit
import LineLint.Text.Order
import LineLint.Text.Printable
import LineLint.Text.Quoted
import LineLint.Text.Ranges
import LineLint.Text.Search
import LineLint.Text.Similar
import LineLint.Text.Utf8
import LineLint.Text.Word
import LineLint.Toml.Document
import LineLint.Toml.Fault
import LineLint.Toml.Lexeme
import LineLint.Toml.Literal
import LineLint.Toml.Scalar
import LineLint.Toml.Table
import LineLint.Violation
import LineLint.Proofs.Masking.StaleDepth
import LineLint.Proofs.Scan.Concatenation
import LineLint.Proofs.Source.Reading
import LineLint.Proofs.Text.FirstFault
import LineLint.Proofs.Source.Decoding
import LineLint.Proofs.Json.Grammar
import LineLint.Proofs.Scan.Hits
import LineLint.Proofs.Config.Loading
import LineLint.Proofs.Config.Profile
import LineLint.Proofs.Scan.Forms
import LineLint.Proofs.Registry.History
import LineLint.Proofs.Scan.Selection
import LineLint.Proofs.Scan.Faults
import LineLint.Proofs.CommandLine.Outcome
import LineLint.Proofs.Json.Reading
import LineLint.Proofs.Json.Printing
import LineLint.Proofs.Report.Agreement
import LineLint.Proofs.CommandLine.Prefix
import LineLint.Proofs.Line.Pieces
import LineLint.Proofs.Scan.LineEnds
import LineLint.Proofs.Masking.LostString
import LineLint.Proofs.Masking.Idempotence
import LineLint.Proofs.Matching.Declarations
import LineLint.Proofs.Matching.TypeNames
import LineLint.Proofs.Scan.LoneBrace
import LineLint.Proofs.Template.Rendering
import LineLint.Proofs.Scan.FinalBlanks
import LineLint.Proofs.Matching.Anchors
import LineLint.Proofs.Matching.LineBlanks
import LineLint.Proofs.Glob.Brackets
import LineLint.Proofs.Glob.Matching
import LineLint.Proofs.Config.Allowing
import LineLint.Proofs.Registry.Exclusions
import LineLint.Proofs.CommandLine.Exclusions
import LineLint.Config.Memory
import LineLint.Proofs.Config.Memory
import LineLint.Proofs.Config.Table
import LineLint.Proofs.Path.Ancestors
import LineLint.Proofs.Config.Nearest
import LineLint.Proofs.Report.Lines
import LineLint.Proofs.Text.Styles
import LineLint.Proofs.Report.Colour
import LineLint.Proofs.Report.Groups
import LineLint.Proofs.Report.Catalogue
import LineLint.Proofs.Text.Pieces
import LineLint.Proofs.CommandLine.Flags
import LineLint.Proofs.CommandLine.NoColor
