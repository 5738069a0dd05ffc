import EntityQuery.Bytes
import EntityQuery.Calendar.Date
import EntityQuery.Calendar.Instant
import EntityQuery.Calendar.Reader
import EntityQuery.Clause
import EntityQuery.Entity
import EntityQuery.Error
import EntityQuery.Execution.Event
import EntityQuery.Execution.Operation
import EntityQuery.Execution.Session
import EntityQuery.Execution.Transaction
import EntityQuery.Expr
import EntityQuery.Fragment
import EntityQuery.Ident
import EntityQuery.Json.Reader
import EntityQuery.Json.Render
import EntityQuery.Json.Value
import EntityQuery.Number.Binary
import EntityQuery.Number.Decimal
import EntityQuery.Number.Numeral
import EntityQuery.Operator
import EntityQuery.Options
import EntityQuery.Options.Name
import EntityQuery.Options.Reader
import EntityQuery.Placeholder
import EntityQuery.Postgres.Decode
import EntityQuery.Postgres.Encode
import EntityQuery.Postgres.Server
import EntityQuery.Postgres.ServerType
import EntityQuery.Postgres.Uuid
import EntityQuery.Proofs.Bytes
import EntityQuery.Proofs.Entity.Lineage
import EntityQuery.Proofs.Entity.Names
import EntityQuery.Proofs.Execution.Agreeing
import EntityQuery.Proofs.Execution.Concealing
import EntityQuery.Proofs.Execution.Failing
import EntityQuery.Proofs.Execution.Fetching
import EntityQuery.Proofs.Execution.Handover
import EntityQuery.Proofs.Execution.Operations
import EntityQuery.Proofs.Execution.Sending
import EntityQuery.Proofs.Execution.Transacting
import EntityQuery.Proofs.Execution.Validation
import EntityQuery.Proofs.Expr.Emptiness
import EntityQuery.Proofs.Expr.Layout
import EntityQuery.Proofs.Expr.Pieces
import EntityQuery.Proofs.Expr.Silence
import EntityQuery.Proofs.Expr.Template
import EntityQuery.Proofs.Fragment.Balance
import EntityQuery.Proofs.Fragment.Blind
import EntityQuery.Proofs.Fragment.Inlining
import EntityQuery.Proofs.Fragment.Relation
import EntityQuery.Proofs.Fragment.Separating
import EntityQuery.Proofs.Ident.Reading
import EntityQuery.Proofs.Ident.Written
import EntityQuery.Proofs.Json.Assembly
import EntityQuery.Proofs.Json.Numbers
import EntityQuery.Proofs.Json.Tokens
import EntityQuery.Proofs.Number.Nearest
import EntityQuery.Proofs.Number.Truncation
import EntityQuery.Proofs.Options.Arrays
import EntityQuery.Proofs.Options.Counts
import EntityQuery.Proofs.Options.Defaults
import EntityQuery.Proofs.Options.Numbers
import EntityQuery.Proofs.Options.Reading
import EntityQuery.Proofs.Options.Setting
import EntityQuery.Proofs.Outcome
import EntityQuery.Proofs.Placeholder.Numbering
import EntityQuery.Proofs.Placeholder.Offsets
import EntityQuery.Proofs.Placeholder.Pieces
import EntityQuery.Proofs.Placeholder.Quoting
import EntityQuery.Proofs.Placeholder.Replace
import EntityQuery.Proofs.Placeholder.Scan
import EntityQuery.Proofs.Plan.Alike
import EntityQuery.Proofs.Plan.Building
import EntityQuery.Proofs.Plan.Dangling
import EntityQuery.Proofs.Plan.Inlining
import EntityQuery.Proofs.Plan.Related
import EntityQuery.Proofs.Plan.Request
import EntityQuery.Proofs.Plan.Requirement
import EntityQuery.Proofs.Plan.SelfRelated
import EntityQuery.Proofs.Postgres.Codec
import EntityQuery.Proofs.Postgres.Messages
import EntityQuery.Proofs.Predicate.Closed
import EntityQuery.Proofs.Predicate.Combining
import EntityQuery.Proofs.Predicate.Conjunction
import EntityQuery.Proofs.Predicate.Counting
import EntityQuery.Proofs.Predicate.Joining
import EntityQuery.Proofs.Predicate.Membership
import EntityQuery.Proofs.Predicate.Reader
import EntityQuery.Proofs.Predicate.Reading
import EntityQuery.Proofs.Predicate.Spelling
import EntityQuery.Proofs.Predicate.Splicing
import EntityQuery.Proofs.Predicate.Structure
import EntityQuery.Proofs.Predicate.Token
import EntityQuery.Proofs.Predicate.Truth
import EntityQuery.Proofs.Query.Planning
import EntityQuery.Proofs.Registry.Calls
import EntityQuery.Proofs.Row.Ambiguity
import EntityQuery.Proofs.Row.Columns
import EntityQuery.Proofs.Row.Keyed
import EntityQuery.Proofs.Row.Lookup
import EntityQuery.Proofs.Row.Nesting
import EntityQuery.Proofs.Row.Unzipping
import EntityQuery.Proofs.Schema.Joinable
import EntityQuery.Proofs.Schema.Registered
import EntityQuery.Proofs.Statement.Aliases
import EntityQuery.Proofs.Statement.Alignment
import EntityQuery.Proofs.Statement.BatchUpdates
import EntityQuery.Proofs.Statement.Batches
import EntityQuery.Proofs.Statement.Blindness
import EntityQuery.Proofs.Statement.Building
import EntityQuery.Proofs.Statement.Capture
import EntityQuery.Proofs.Statement.Clauses
import EntityQuery.Proofs.Statement.Filtering
import EntityQuery.Proofs.Statement.Inlining
import EntityQuery.Proofs.Statement.InsertedRows
import EntityQuery.Proofs.Statement.Listing
import EntityQuery.Proofs.Statement.Operand
import EntityQuery.Proofs.Statement.OutputNames
import EntityQuery.Proofs.Statement.Parts
import EntityQuery.Proofs.Statement.Quiet
import EntityQuery.Proofs.Statement.Requests
import EntityQuery.Proofs.Statement.Resolution
import EntityQuery.Proofs.Statement.Restricting
import EntityQuery.Proofs.Statement.Returning
import EntityQuery.Proofs.Statement.Transport
import EntityQuery.Proofs.Statement.ValueTable
import EntityQuery.Query
import EntityQuery.Registry
import EntityQuery.Row
import EntityQuery.Row.Shape
import EntityQuery.Schema
import EntityQuery.Schema.Declaration
import EntityQuery.Scope
import EntityQuery.Statement
import EntityQuery.Statement.Clauses
import EntityQuery.Statement.Insert
import EntityQuery.Statement.Select
import EntityQuery.Statement.Update
import EntityQuery.Text.Alphanumeric
import EntityQuery.Text.Blank
import EntityQuery.Text.Case
import EntityQuery.Text.Hexadecimal
import EntityQuery.Text.Printable
import EntityQuery.Text.Quoted
import EntityQuery.Text.SnakeCase
import EntityQuery.Text.Split
import EntityQuery.Toml.Document
import EntityQuery.Toml.Moment
import EntityQuery.Toml.Scalar
import EntityQuery.Toml.Token
import EntityQuery.Toml.Value
