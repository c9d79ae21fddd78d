import DataGrid.Alphanumeric
import DataGrid.Backend
import DataGrid.Backend.Term
import DataGrid.Binary64
import DataGrid.Binary64.Shortest
import DataGrid.Binary64.Text
import DataGrid.Blank
import DataGrid.CodeRanges
import DataGrid.Column
import DataGrid.CommandLine
import DataGrid.Comparison
import DataGrid.DateTime
import DataGrid.DateTime.Pattern
import DataGrid.DateTime.Text
import DataGrid.Dictionary
import DataGrid.Environment
import DataGrid.Failure
import DataGrid.Files
import DataGrid.Files.Directory
import DataGrid.Filter
import DataGrid.Filter.Compile
import DataGrid.Filter.Decode
import DataGrid.Filter.Encode
import DataGrid.Filter.Error
import DataGrid.Filter.Names
import DataGrid.Identifier
import DataGrid.Json
import DataGrid.Json.Access
import DataGrid.Json.Choice
import DataGrid.Json.Fault
import DataGrid.Json.Number
import DataGrid.Json.Printer
import DataGrid.Json.Quoted
import DataGrid.Json.Reader
import DataGrid.Json.Tree
import DataGrid.Like
import DataGrid.Log
import DataGrid.Main
import DataGrid.Memory
import DataGrid.Memory.Cell
import DataGrid.Page
import DataGrid.Program
import DataGrid.Query
import DataGrid.Request
import DataGrid.Service
import DataGrid.Settings
import DataGrid.Settings.File
import DataGrid.Sort
import DataGrid.Sql
import DataGrid.Sql.Columns
import DataGrid.Sql.Dialect
import DataGrid.Sql.Expr
import DataGrid.Unprintable
import DataGrid.Value
import DataGrid.Proofs.Backend.Simulation
import DataGrid.Proofs.Filter.Simulation
import DataGrid.Proofs.Sql.MemoryAgreement
import DataGrid.Proofs.Sql.Binding
import DataGrid.Proofs.Sql.Rendering
import DataGrid.Proofs.Sql.Grammar
import DataGrid.Proofs.Sql.RoundTrip
import DataGrid.Proofs.Query
import DataGrid.Proofs.Sql.Noninterference
import DataGrid.Proofs.Sql.Safety
import DataGrid.Proofs.Filter.Pruning
import DataGrid.Proofs.Like
import DataGrid.Proofs.Filter.Meaning
import DataGrid.Proofs.Except
import DataGrid.Proofs.Json.Numbers
import DataGrid.Proofs.Sql.Placeholders
import DataGrid.Proofs.Filter.Numbers
import DataGrid.Proofs.Sql.Parameters
import DataGrid.Proofs.Whitelist
import DataGrid.Proofs.Memory.Order
import DataGrid.Proofs.Memory.Sorting
import DataGrid.Proofs.Memory.Blocks
import DataGrid.Proofs.Memory.Confinement
import DataGrid.Proofs.Sql.Order
import DataGrid.Proofs.Dictionary
import DataGrid.Proofs.Filter.Failures
import DataGrid.Proofs.Json.Nesting
import DataGrid.Proofs.Stack
import DataGrid.Proofs.Filter.Depth
import DataGrid.Proofs.Sql.Depth
import DataGrid.Proofs.Json.Lexeme
import DataGrid.Proofs.Json.Source
import DataGrid.Proofs.Json.RoundTrip
import DataGrid.Proofs.Filter.RoundTrip
import DataGrid.Proofs.Request.RoundTrip
import DataGrid.Proofs.Json.Reordering
import DataGrid.Proofs.Json.MemberOrder
import DataGrid.Proofs.Filter.Reordering
import DataGrid.Proofs.Request.Reordering
import DataGrid.Proofs.Filter.Search
import DataGrid.Proofs.Like.Language
import DataGrid.Proofs.Page.Exactness
import DataGrid.Proofs.Filter.Coherence
import DataGrid.Proofs.Json.Edits
import DataGrid.Proofs.Filter.Tokens
import DataGrid.Proofs.Request.Filters
import DataGrid.Proofs.Request.Limits
import DataGrid.Proofs.Request.Tokens
import DataGrid.Proofs.Binary64.Integers
import DataGrid.Proofs.Memory.Integers
import DataGrid.Proofs.Like.Escaping
import DataGrid.Proofs.Filter.Leaves
import DataGrid.Proofs.Sql.Patterns
import DataGrid.Proofs.Settings.Layers
import DataGrid.Proofs.DateTime.Form
import DataGrid.Proofs.Sql.Dates
import DataGrid.Proofs.Binary64.Rounding
import DataGrid.Proofs.Binary64.Shortest
import DataGrid.Proofs.Json.Decimals
import DataGrid.Proofs.Json.Scaling
import DataGrid.Proofs.Json.Rereading
import DataGrid.Proofs.Json.Rewriting
import DataGrid.Proofs.Settings.Rows
import DataGrid.Proofs.DateTime.Calendar
import DataGrid.Proofs.DateTime.RoundTrip
import DataGrid.Proofs.DateTime.Order
import DataGrid.Proofs.DateTime.Forms
import DataGrid.Proofs.DateTime.Cells
import DataGrid.Proofs.Filter.Dates
import DataGrid.Proofs.Sql.Words
import DataGrid.Proofs.Sql.Restriction
