import ErrorLint.Config.Basic
import ErrorLint.Config.Error
import ErrorLint.Config.Json
import ErrorLint.Config.JsonValue
import ErrorLint.Config.Loading
import ErrorLint.Config.Mismatch
import ErrorLint.Config.Record
import ErrorLint.Config.Severity
import ErrorLint.Config.SortedMap
import ErrorLint.Config.Toml
import ErrorLint.Config.Value
import ErrorLint.Decimal.Nearest
import ErrorLint.Decimal.Power
import ErrorLint.Decimal.Shortest
import ErrorLint.Diagnostic
import ErrorLint.Fix.Splice
import ErrorLint.Linter.Basic
import ErrorLint.Linter.Fixing
import ErrorLint.Linter.Result
import ErrorLint.Linter.Selection
import ErrorLint.Message.Category
import ErrorLint.Message.Data
import ErrorLint.Pattern.Encoding
import ErrorLint.Pattern.Engine
import ErrorLint.Pattern.Expr
import ErrorLint.Pattern.Footprint
import ErrorLint.Pattern.Lead
import ErrorLint.Pattern.Matching
import ErrorLint.Pattern.Program
import ErrorLint.Pattern.Reader
import ErrorLint.Pattern.Shorthand
import ErrorLint.Proofs.Fix.Selection
import ErrorLint.Proofs.Text.Cutting
import ErrorLint.Proofs.Tree.Subtree
import ErrorLint.Rule.Basic
import ErrorLint.Rule.ErrorName
import ErrorLint.Rule.ImportedNames
import ErrorLint.Rule.Kind
import ErrorLint.Rule.Matching
import ErrorLint.Rule.Meta
import ErrorLint.Rule.NoGenericError
import ErrorLint.Rule.NoLiteralErrorMessage
import ErrorLint.Rule.NoThrowLiteral
import ErrorLint.Rule.Occurrences
import ErrorLint.Rule.RequireCustomError
import ErrorLint.Rule.RequireHardcodedErrorMessage
import ErrorLint.Source.Unit
import ErrorLint.StringLiteral
import ErrorLint.Suppression
import ErrorLint.Text.Blank
import ErrorLint.Text.Lines
import ErrorLint.Text.LowerCase
import ErrorLint.Text.Offset
import ErrorLint.Text.Quoted
import ErrorLint.Text.Search
import ErrorLint.Text.Span
import ErrorLint.Toml.DateTime
import ErrorLint.Toml.Document
import ErrorLint.Toml.Key
import ErrorLint.Toml.Library
import ErrorLint.Toml.Number
import ErrorLint.Toml.Quoted
import ErrorLint.Toml.Reader
import ErrorLint.Toml.Value
import ErrorLint.Toml.Writer
import ErrorLint.Tree.Arena
import ErrorLint.Tree.Concrete
import ErrorLint.Tree.Form
import ErrorLint.Tree.Listing
import ErrorLint.Tree.Lowering
import ErrorLint.Tree.Term
import ErrorLint.Unicode.Age
import ErrorLint.Unicode.Break
import ErrorLint.Unicode.CaseFolding
import ErrorLint.Unicode.Category
import ErrorLint.Unicode.CharSet
import ErrorLint.Unicode.Name
import ErrorLint.Unicode.Property
import ErrorLint.Unicode.PropertyTable
import ErrorLint.Unicode.Query
import ErrorLint.Unicode.Script
import ErrorLint.Unicode.Shift
import ErrorLint.Proofs.Tree.Provenance
import ErrorLint.Proofs.Rule.Verdict
import ErrorLint.Proofs.Rule.Proposal
import ErrorLint.Proofs.Fix.Growth
import ErrorLint.Proofs.Fix.Fixpoint
import ErrorLint.Proofs.Fix.Nesting
import ErrorLint.Proofs.Tree.Table
import ErrorLint.Proofs.Tree.Stack
import ErrorLint.Proofs.Tree.Reading
import ErrorLint.Proofs.Linter.Attribution
import ErrorLint.Proofs.Rule.Grouping
import ErrorLint.Proofs.Rule.Slots
import ErrorLint.Proofs.Rule.Filing
import ErrorLint.Proofs.Rule.Repetition
import ErrorLint.Proofs.Text.LiteralSpelling
import ErrorLint.Proofs.Text.LineFeeds
import ErrorLint.Proofs.Rule.Anchor
import ErrorLint.Proofs.Linter.Hiding
import ErrorLint.Proofs.Tree.Coverage
import ErrorLint.Proofs.Tree.Comments
import ErrorLint.Proofs.Tree.Parentheses
import ErrorLint.Proofs.Fix.RuleOrder
import ErrorLint.Proofs.Message.Template
import ErrorLint.Proofs.Rule.Declaration
import ErrorLint.Proofs.Linter.Soundness
import ErrorLint.Proofs.Fix.Gluing
import ErrorLint.Proofs.Linter.Markers
import ErrorLint.Proofs.Linter.Verdicts
import ErrorLint.Proofs.Rule.CustomErrors
import ErrorLint.Proofs.Rule.LiteralMessages
import ErrorLint.Proofs.Rule.Exclusion
import ErrorLint.Proofs.Toml.Strings
import ErrorLint.Proofs.Toml.Conformance
import ErrorLint.Proofs.Toml.Keys
import ErrorLint.Proofs.Toml.Numbers
import ErrorLint.Proofs.Toml.Tables
import ErrorLint.Proofs.Toml.Values
import ErrorLint.Proofs.Toml.Lines
import ErrorLint.Proofs.Config.Options
import ErrorLint.Proofs.Config.RoundTrip
import ErrorLint.Proofs.Rule.Insertions
import ErrorLint.Proofs.Linter.DirectiveComments
import ErrorLint.Proofs.Config.Settings
import ErrorLint.Proofs.Rule.Activation
import ErrorLint.Proofs.Linter.Resolution
import ErrorLint.Proofs.Fix.Slicing
import ErrorLint.Proofs.Message.Layout
import ErrorLint.Proofs.Linter.Descriptions
import ErrorLint.Proofs.Text.Respelling
import ErrorLint.Proofs.Message.Classification
import ErrorLint.Proofs.Linter.Ordering
import ErrorLint.Proofs.Tree.Picking
import ErrorLint.Proofs.Tree.Layout
