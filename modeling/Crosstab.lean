import Crosstab.Binary64.Arith
import Crosstab.Binary64.Basic
import Crosstab.Binary64.Decimal
import Crosstab.Binary64.Shortest
import Crosstab.Calendar.Date
import Crosstab.Calendar.Grain
import Crosstab.Calendar.Timestamp
import Crosstab.Calendar.Written
import Crosstab.Cell.Basic
import Crosstab.Cell.Written
import Crosstab.Clause.Basic
import Crosstab.Clause.Fault
import Crosstab.Clause.Lexeme
import Crosstab.Clause.Lexer
import Crosstab.Clause.Parser
import Crosstab.Cli.Arguments
import Crosstab.Cli.Run
import Crosstab.Digest.Sha256
import Crosstab.Expr.Aggregate
import Crosstab.Expr.Basic
import Crosstab.Expr.Eval
import Crosstab.Expr.Filter
import Crosstab.Expr.Operator
import Crosstab.Expr.Row
import Crosstab.Expr.Structured
import Crosstab.Fault
import Crosstab.Frame.Basic
import Crosstab.Frame.Dataset
import Crosstab.Frame.Records
import Crosstab.Frame.Reduction
import Crosstab.Json.Basic
import Crosstab.Json.Number
import Crosstab.Json.Reader
import Crosstab.Json.Record
import Crosstab.Json.Written
import Crosstab.Main
import Crosstab.Pattern
import Crosstab.Proofs.Binary64.Numeral
import Crosstab.Proofs.Binary64.Order
import Crosstab.Proofs.Binary64.Rounding
import Crosstab.Proofs.Binary64.Shortest
import Crosstab.Proofs.Calendar.Order
import Crosstab.Proofs.Calendar.RoundTrip
import Crosstab.Proofs.Calendar.Truncate
import Crosstab.Proofs.Cell.Compared
import Crosstab.Proofs.Cell.Order
import Crosstab.Proofs.Cell.Torn
import Crosstab.Proofs.Cell.Written
import Crosstab.Proofs.Clause.Completeness
import Crosstab.Proofs.Clause.Failures
import Crosstab.Proofs.Clause.Grammar
import Crosstab.Proofs.Clause.Leading
import Crosstab.Proofs.Clause.Numbers
import Crosstab.Proofs.Clause.Parsed
import Crosstab.Proofs.Clause.Soundness
import Crosstab.Proofs.Clause.Spaced
import Crosstab.Proofs.Clause.Spelling
import Crosstab.Proofs.Expr.Aggregate
import Crosstab.Proofs.Expr.Columnar
import Crosstab.Proofs.Expr.Contained
import Crosstab.Proofs.Expr.Dependencies
import Crosstab.Proofs.Expr.Division
import Crosstab.Proofs.Expr.Faults
import Crosstab.Proofs.Expr.Meaning
import Crosstab.Proofs.Expr.Part
import Crosstab.Proofs.Expr.Readable
import Crosstab.Proofs.Expr.Reads
import Crosstab.Proofs.Expr.RowErrors
import Crosstab.Proofs.Expr.Structured
import Crosstab.Proofs.Frame.Building
import Crosstab.Proofs.Frame.Edits
import Crosstab.Proofs.Frame.Groups
import Crosstab.Proofs.Frame.Partition
import Crosstab.Proofs.Frame.Records
import Crosstab.Proofs.Frame.Reduced
import Crosstab.Proofs.Frame.Rows
import Crosstab.Proofs.Json.Canonical
import Crosstab.Proofs.Json.Loosened
import Crosstab.Proofs.Json.Record
import Crosstab.Proofs.Json.Valid
import Crosstab.Proofs.Outcome
import Crosstab.Proofs.Report.Arranged
import Crosstab.Proofs.Report.Attached
import Crosstab.Proofs.Report.Backed
import Crosstab.Proofs.Report.Buckets
import Crosstab.Proofs.Report.Columns
import Crosstab.Proofs.Report.Derived
import Crosstab.Proofs.Report.Engine
import Crosstab.Proofs.Report.Finished
import Crosstab.Proofs.Report.Grouped
import Crosstab.Proofs.Report.History
import Crosstab.Proofs.Report.Lookup
import Crosstab.Proofs.Report.Ordered
import Crosstab.Proofs.Report.Permuted
import Crosstab.Proofs.Report.Pivoted
import Crosstab.Proofs.Report.Plan
import Crosstab.Proofs.Report.Reshape
import Crosstab.Proofs.Report.RowOrder
import Crosstab.Proofs.Report.Sent
import Crosstab.Proofs.Report.Shuffled
import Crosstab.Proofs.Report.SliceGroups
import Crosstab.Proofs.Report.Sliced
import Crosstab.Proofs.Report.Sorted
import Crosstab.Proofs.Report.Structured
import Crosstab.Proofs.Report.Sums
import Crosstab.Proofs.Report.Validated
import Crosstab.Proofs.Sql.Aliased
import Crosstab.Proofs.Sql.Emitted
import Crosstab.Proofs.Sql.Failures
import Crosstab.Proofs.Sql.Identities
import Crosstab.Proofs.Sql.Literal
import Crosstab.Proofs.Sql.Quoting
import Crosstab.Proofs.Sql.Reread
import Crosstab.Proofs.Sql.Scanned
import Crosstab.Proofs.Sql.Settled
import Crosstab.Proofs.Sql.Substituted
import Crosstab.Proofs.Sql.Written
import Crosstab.Proofs.Text.Bytes
import Crosstab.Proofs.Text.Digits
import Crosstab.Regex.Basic
import Crosstab.Regex.BreakSet
import Crosstab.Regex.CategorySet
import Crosstab.Regex.CharSet
import Crosstab.Regex.Cost
import Crosstab.Regex.DerivedSet
import Crosstab.Regex.Encoding
import Crosstab.Regex.Escape
import Crosstab.Regex.Interval
import Crosstab.Regex.Normal
import Crosstab.Regex.Property
import Crosstab.Regex.Reader
import Crosstab.Report.Basic
import Crosstab.Report.Dimension
import Crosstab.Report.Engine
import Crosstab.Report.Grouped
import Crosstab.Report.Measure
import Crosstab.Report.Pivot
import Crosstab.Report.Plan
import Crosstab.Report.Sorter
import Crosstab.Report.Spec
import Crosstab.Report.Statement
import Crosstab.Report.Table
import Crosstab.Settings
import Crosstab.Sql.Aliases
import Crosstab.Sql.Dialect
import Crosstab.Sql.Emit
import Crosstab.Sql.Form
import Crosstab.Sql.Query
import Crosstab.Sql.Token
import Crosstab.Text.Age
import Crosstab.Text.Case
import Crosstab.Text.Category
import Crosstab.Text.CharClass
import Crosstab.Text.Emoji
import Crosstab.Text.Hex
import Crosstab.Text.Property
import Crosstab.Text.Run
import Crosstab.Text.Script
import Crosstab.Text.ScriptUse
import Crosstab.Text.Split
import Crosstab.Toml.Quoted
import Crosstab.Toml.Reader
import Crosstab.Toml.Scalar
import Crosstab.Toml.Table
