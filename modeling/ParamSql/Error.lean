import ParamSql.Text.Quoted
import ParamSql.Value.Basic

/-!
# What can go wrong

* `Error` — the causes.
* `Error.message` — how a cause is worded.
-/

set_option autoImplicit false

namespace ParamSql

/-- How a statement was left incomplete. -/
inductive Omission where
  /-- A SELECT that selects nothing. -/
  | selection
  /-- An UPDATE that assigns nothing. -/
  | assignment
  /-- A DELETE that would take every row. -/
  | condition
  /-- An INSERT whose columns were never given. -/
  | columnList
  /-- An INSERT into no column at all. -/
  | columns
  deriving DecidableEq, Repr

/-- A cause of failure. -/
inductive Error where
  | invalidIdentifier (name : String)
  | emptyGroup
  | arityMismatch (expected found : Nat)
  | conflictingDefinitions (name : String)
  | tooManyArguments (expected given : Nat)
  | missingArgument (name : String)
  | unexpectedArguments (names : List String)
  | unknownOperator (spelling : String)
  | incomplete (omission : Omission)
  | unsupportedType (type : ValueType)
  deriving DecidableEq, Repr

/-- How an omission is worded. -/
def Omission.message : Omission → String
  | selection => "SELECT requires at least one column"
  | assignment => "UPDATE requires SET clauses"
  | condition => "DELETE requires WHERE condition for safety"
  | columnList => "INSERT requires columns to be specified with .columns()"
  | columns => "INSERT requires at least one column"

/-- How a cause of failure is worded. -/
def Error.message : Error → String
  | invalidIdentifier name => "Cannot use '" ++ name ++ "' as an identifier"
  | emptyGroup => "Cannot group an empty list of values"
  | arityMismatch expected found =>
    "Expected " ++ toString expected ++ " values but " ++ toString found ++ " were given"
  | conflictingDefinitions name => "Parameter '" ++ name ++ "' has conflicting definitions"
  | tooManyArguments expected given =>
    "Query takes " ++ toString expected ++ " arguments but " ++ toString given ++ " were given"
  | missingArgument name => "Query missing a required argument: '" ++ name ++ "'"
  | unexpectedArguments names =>
    "Query got unexpected keyword arguments " ++ Text.shownList names
  | unknownOperator spelling => "Unknown operator '" ++ spelling ++ "'"
  | incomplete omission => "Invalid query: " ++ omission.message
  | unsupportedType type => "Cannot bind a parameter of type " ++ type.sql

end ParamSql
