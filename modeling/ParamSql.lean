import ParamSql.Codec.Decoder
import ParamSql.Codec.Query
import ParamSql.Codec.Value
import ParamSql.Column
import ParamSql.Error
import ParamSql.Expr.Basic
import ParamSql.Expr.Build
import ParamSql.Expr.Render
import ParamSql.Expr.Tokens
import ParamSql.Json.Basic
import ParamSql.Json.Document
import ParamSql.Json.Parser
import ParamSql.Name
import ParamSql.Number.Binary
import ParamSql.Number.Decimal
import ParamSql.Number.Numeral
import ParamSql.Number.Shortest
import ParamSql.Operator
import ParamSql.Proofs.Codec.Decoding
import ParamSql.Proofs.Codec.Queries
import ParamSql.Proofs.Codec.Values
import ParamSql.Proofs.Expr.Comparing
import ParamSql.Proofs.Expr.Construction
import ParamSql.Proofs.Expr.Printing
import ParamSql.Proofs.Expr.Reader
import ParamSql.Proofs.Json.Reading
import ParamSql.Proofs.Json.Values
import ParamSql.Proofs.Number.Conversion
import ParamSql.Proofs.Number.Decimal
import ParamSql.Proofs.Number.Writing
import ParamSql.Proofs.Query.Appending
import ParamSql.Proofs.Query.Arguments
import ParamSql.Proofs.Query.Binding
import ParamSql.Proofs.Query.Consistency
import ParamSql.Proofs.Query.Identity
import ParamSql.Proofs.Query.Likeness
import ParamSql.Proofs.Query.Numbering
import ParamSql.Proofs.Query.Registering
import ParamSql.Proofs.Query.Sending
import ParamSql.Proofs.Query.Styles
import ParamSql.Proofs.Query.Trimming
import ParamSql.Proofs.Statement.Clauses
import ParamSql.Proofs.Statement.Conditions
import ParamSql.Proofs.Statement.Lists
import ParamSql.Proofs.Statement.Naming
import ParamSql.Proofs.Statement.Rows
import ParamSql.Proofs.Statement.Slots
import ParamSql.Proofs.Statement.Sources
import ParamSql.Proofs.Text.Digits
import ParamSql.Proofs.Text.Naming
import ParamSql.Proofs.Text.Qualifying
import ParamSql.Proofs.Time.Calendar
import ParamSql.Proofs.Time.Reading
import ParamSql.Proofs.Uuid
import ParamSql.Proofs.Value.Equality
import ParamSql.Proofs.Value.Literals
import ParamSql.Query.Bind
import ParamSql.Query.Compile
import ParamSql.Query.HandOff
import ParamSql.Query.ParameterTable
import ParamSql.Statement.Basic
import ParamSql.Statement.Delete
import ParamSql.Statement.Insert
import ParamSql.Statement.Select
import ParamSql.Statement.Update
import ParamSql.Text.Blank
import ParamSql.Text.CodePoint
import ParamSql.Text.Hex
import ParamSql.Text.Letter
import ParamSql.Text.Printable
import ParamSql.Text.Quoted
import ParamSql.Text.Scan
import ParamSql.Time.Calendar
import ParamSql.Time.Reader
import ParamSql.Time.Timestamp
import ParamSql.Token
import ParamSql.Uuid
import ParamSql.Value.Basic
import ParamSql.Value.Inline
import ParamSql.Variable
