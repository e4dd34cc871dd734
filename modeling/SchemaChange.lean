import SchemaChange.Build.Batch
import SchemaChange.Build.Builder
import SchemaChange.Build.Columns
import SchemaChange.Build.Constraints
import SchemaChange.Build.Rebuild
import SchemaChange.Build.Tables
import SchemaChange.Build.Task
import SchemaChange.CaseRule
import SchemaChange.Catalog
import SchemaChange.Config
import SchemaChange.Config.Toml
import SchemaChange.Connection.Dialogue
import SchemaChange.Connection.Operation
import SchemaChange.Connection.Request
import SchemaChange.Connection.Scripted
import SchemaChange.DatabaseType
import SchemaChange.Dialect
import SchemaChange.Dialect.Literal
import SchemaChange.Dictionary
import SchemaChange.Editor.Basic
import SchemaChange.Editor.Call
import SchemaChange.Editor.Columns
import SchemaChange.Editor.Constraints
import SchemaChange.Editor.Rows
import SchemaChange.Editor.Session
import SchemaChange.Editor.Tables
import SchemaChange.Error
import SchemaChange.Inspector
import SchemaChange.Json.Reading
import SchemaChange.Json.Value
import SchemaChange.Json.Writing
import SchemaChange.Number.Binary64
import SchemaChange.Number.Decimal
import SchemaChange.Number.Reading
import SchemaChange.Number.Shortest
import SchemaChange.Proofs.Build.Alike
import SchemaChange.Proofs.Build.Checked
import SchemaChange.Proofs.Build.Naming
import SchemaChange.Proofs.Call.Backfill
import SchemaChange.Proofs.Call.Ending
import SchemaChange.Proofs.Call.FailedLookup
import SchemaChange.Proofs.Call.Filters
import SchemaChange.Proofs.Call.Ignoring
import SchemaChange.Proofs.Call.Inquiry
import SchemaChange.Proofs.Call.Malformed
import SchemaChange.Proofs.Call.Nullability
import SchemaChange.Proofs.Call.Report
import SchemaChange.Proofs.Call.Session
import SchemaChange.Proofs.Call.Staged
import SchemaChange.Proofs.Call.Work
import SchemaChange.Proofs.Catalog.ColumnSet
import SchemaChange.Proofs.Catalog.Existence
import SchemaChange.Proofs.Catalog.ForeignKey
import SchemaChange.Proofs.Catalog.Pairing
import SchemaChange.Proofs.Catalog.Qualified
import SchemaChange.Proofs.Catalog.Repetition
import SchemaChange.Proofs.Catalog.RowCount
import SchemaChange.Proofs.Catalog.Shown
import SchemaChange.Proofs.Course.Basic
import SchemaChange.Proofs.Course.InTurn
import SchemaChange.Proofs.Course.Lookup
import SchemaChange.Proofs.Course.Refusal
import SchemaChange.Proofs.Course.Resolution
import SchemaChange.Proofs.Course.Series
import SchemaChange.Proofs.Course.Statement
import SchemaChange.Proofs.Course.Tolerance
import SchemaChange.Proofs.Dialect.Literal
import SchemaChange.Proofs.Number.Nearest
import SchemaChange.Proofs.Number.Numeral
import SchemaChange.Proofs.Number.Quantity
import SchemaChange.Proofs.Number.Shortest
import SchemaChange.Proofs.Rebuild.Content
import SchemaChange.Proofs.Rebuild.Counting
import SchemaChange.Proofs.Rebuild.Database
import SchemaChange.Proofs.Rebuild.Decoding
import SchemaChange.Proofs.Rebuild.Order
import SchemaChange.Proofs.Rebuild.Parts
import SchemaChange.Proofs.Rebuild.Plan
import SchemaChange.Proofs.Rebuild.Stages
import SchemaChange.Proofs.Rebuild.Survival
import SchemaChange.Proofs.Rebuild.Writing
import SchemaChange.Proofs.Script.AddedColumn
import SchemaChange.Proofs.Script.Blocks
import SchemaChange.Proofs.Script.Comment
import SchemaChange.Proofs.Script.Effective
import SchemaChange.Proofs.Script.Running
import SchemaChange.Proofs.Script.Splitting
import SchemaChange.Proofs.Spec.Distinct
import SchemaChange.Proofs.Spec.PrimaryKey
import SchemaChange.Proofs.SqlType.LeadingWord
import SchemaChange.Proofs.Sqlite.Closed
import SchemaChange.Proofs.Sqlite.Length
import SchemaChange.Proofs.Sqlite.Listing
import SchemaChange.Proofs.Sqlite.Reference
import SchemaChange.Proofs.Sqlite.Scheme
import SchemaChange.Proofs.Sqlite.Storage
import SchemaChange.Proofs.Statement.Alteration
import SchemaChange.Proofs.Statement.Clause
import SchemaChange.Proofs.Statement.Columns
import SchemaChange.Proofs.Statement.Contained
import SchemaChange.Proofs.Statement.CutShort
import SchemaChange.Proofs.Statement.Definition
import SchemaChange.Proofs.Statement.Lined
import SchemaChange.Proofs.Statement.Literal
import SchemaChange.Proofs.Statement.Marks
import SchemaChange.Proofs.Statement.Passage
import SchemaChange.Proofs.Statement.Points
import SchemaChange.Proofs.Statement.Reading
import SchemaChange.Proofs.Statement.Scan
import SchemaChange.Proofs.Statement.TypeText
import SchemaChange.Proofs.Statement.Uncommented
import SchemaChange.Proofs.Text.Casing
import SchemaChange.Proofs.Text.Lines
import SchemaChange.Proofs.Text.Quoted
import SchemaChange.Proofs.Text.Utf8
import SchemaChange.Proofs.Timestamp.Order
import SchemaChange.QueryResult
import SchemaChange.Record.Basic
import SchemaChange.Record.Catalog
import SchemaChange.Record.Config
import SchemaChange.Record.Spec
import SchemaChange.Record.Value
import SchemaChange.Script
import SchemaChange.Spec
import SchemaChange.SqlType
import SchemaChange.Sqlite.Catalog
import SchemaChange.Sqlite.Cell
import SchemaChange.Sqlite.Connection
import SchemaChange.Sqlite.Declared
import SchemaChange.Sqlite.Piece
import SchemaChange.Sqlite.Schema
import SchemaChange.Text.Basic
import SchemaChange.Text.Casing
import SchemaChange.Text.Casing.Table
import SchemaChange.Text.Property
import SchemaChange.Text.Utf8
import SchemaChange.Timestamp
import SchemaChange.Timestamp.Reading
import SchemaChange.Toml.Document
import SchemaChange.Toml.Scalar
import SchemaChange.Toml.Text
import SchemaChange.Toml.Value
import SchemaChange.Value
