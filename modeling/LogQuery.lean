import LogQuery.Color
import LogQuery.Color.Rule
import LogQuery.Color.Style
import LogQuery.CommandLine.Arguments
import LogQuery.CommandLine.Run
import LogQuery.CommandLine.Usage
import LogQuery.File
import LogQuery.Filter.Compare
import LogQuery.Filter.Dependencies
import LogQuery.Filter.Error
import LogQuery.Filter.Evaluate
import LogQuery.Filter.Field
import LogQuery.Filter.Lexer
import LogQuery.Filter.Library
import LogQuery.Filter.Operator
import LogQuery.Filter.Printer
import LogQuery.Filter.Reader
import LogQuery.Filter.Registry
import LogQuery.Filter.Token
import LogQuery.Filter.Tree
import LogQuery.Instant
import LogQuery.Instant.Relaxed
import LogQuery.Instant.Rfc3339
import LogQuery.Json
import LogQuery.Json.Relaxed
import LogQuery.Keyed
import LogQuery.Log.Entry
import LogQuery.Log.Fields
import LogQuery.Log.Payload
import LogQuery.Log.Reader
import LogQuery.Main
import LogQuery.Number
import LogQuery.Number.Shortest
import LogQuery.Number.Text
import LogQuery.Pattern
import LogQuery.Pattern.Bracket
import LogQuery.Pattern.Bytes
import LogQuery.Pattern.Escape
import LogQuery.Pattern.Expr
import LogQuery.Pattern.Flags
import LogQuery.Pattern.Plan
import LogQuery.Pattern.Reader
import LogQuery.Pattern.Simplify
import LogQuery.Pattern.Space
import LogQuery.Profile
import LogQuery.Profile.Reader
import LogQuery.Proofs.Instant.Offset
import LogQuery.Proofs.Instant.ReadBack
import LogQuery.Proofs.Number.Digits
import LogQuery.Proofs.Number.Distinct
import LogQuery.Proofs.Number.Nearest
import LogQuery.Proofs.Number.ReadBack
import LogQuery.Search
import LogQuery.Search.Report
import LogQuery.Table
import LogQuery.Text.Blank
import LogQuery.Text.CaseTable
import LogQuery.Text.Columns
import LogQuery.Text.Hex
import LogQuery.Text.Items
import LogQuery.Text.Lowercase
import LogQuery.Text.Substring
import LogQuery.Text.Width
import LogQuery.Toml
import LogQuery.Toml.Reader
import LogQuery.Toml.Scalar
import LogQuery.Unicode.Age
import LogQuery.Unicode.Break
import LogQuery.Unicode.Category
import LogQuery.Unicode.CodeSet
import LogQuery.Unicode.Fold
import LogQuery.Unicode.Property
import LogQuery.Unicode.Script
import LogQuery.Proofs.Filter.Canonical
import LogQuery.Proofs.Filter.CanonicalDepth
import LogQuery.Proofs.Filter.Composition
import LogQuery.Proofs.Filter.Conditions
import LogQuery.Proofs.Filter.Dependence
import LogQuery.Proofs.Filter.Dates
import LogQuery.Proofs.Filter.DependencyGraph
import LogQuery.Proofs.Filter.Equivalence
import LogQuery.Proofs.Filter.EvaluationDepth
import LogQuery.Proofs.Filter.Faithful
import LogQuery.Proofs.Filter.Grammar
import LogQuery.Proofs.Filter.Hidden
import LogQuery.Proofs.Filter.Image
import LogQuery.Proofs.Filter.Levels
import LogQuery.Proofs.Filter.Lexing
import LogQuery.Proofs.Filter.Library
import LogQuery.Proofs.Filter.Membership
import LogQuery.Proofs.Filter.Mirroring
import LogQuery.Proofs.Filter.Mismatch
import LogQuery.Proofs.Filter.Negation
import LogQuery.Proofs.Filter.Nesting
import LogQuery.Proofs.Filter.Occurrence
import LogQuery.Proofs.Filter.Offsets
import LogQuery.Proofs.Filter.OperatorLaws
import LogQuery.Proofs.Filter.Ordering
import LogQuery.Proofs.Filter.Outcome
import LogQuery.Proofs.Filter.Parsing
import LogQuery.Proofs.Filter.Parts
import LogQuery.Proofs.Filter.Positions
import LogQuery.Proofs.Filter.Reach
import LogQuery.Proofs.Filter.Reading
import LogQuery.Proofs.Filter.RoundTrip
import LogQuery.Proofs.Filter.SavedNames
import LogQuery.Proofs.Filter.Single
import LogQuery.Proofs.Filter.Spelling
import LogQuery.Proofs.Filter.Substitution
import LogQuery.Proofs.Filter.Tokens
import LogQuery.Proofs.Filter.Transcript
import LogQuery.Proofs.Filter.Typing
import LogQuery.Proofs.Filter.WellFormed
import LogQuery.Proofs.Log.PayloadDate
import LogQuery.Proofs.Log.Blocks
import LogQuery.Proofs.Search.Findings
import LogQuery.Proofs.Search.Report
import LogQuery.Proofs.Text.Lowercase
import LogQuery.Proofs.Color.Failing
import LogQuery.Proofs.Color.Winner
import LogQuery.Proofs.Instant.RelaxedReadBack
import LogQuery.Proofs.Profile.SavedFilters
import LogQuery.Proofs.Json.Balanced
import LogQuery.Proofs.Json.Fold
import LogQuery.Proofs.Json.NumberText
import LogQuery.Proofs.Json.Quoted
import LogQuery.Proofs.Json.ReadBack
import LogQuery.Proofs.Json.Reworded
import LogQuery.Proofs.Log.EntryText
import LogQuery.Proofs.Log.PayloadCut
import LogQuery.Proofs.Log.PayloadWords
import LogQuery.Proofs.Search.Colors
import LogQuery.Proofs.Text.Substring
import LogQuery.Proofs.Filter.Slashes
import LogQuery.Proofs.Filter.References
import LogQuery.Proofs.Log.LineFeeds
import LogQuery.Proofs.Search.RowLines
