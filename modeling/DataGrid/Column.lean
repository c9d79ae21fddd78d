/-!
# Columns

How filters look at columns, and why a column cannot be used.
-/

namespace DataGrid

/-- How a filter looks at a column. -/
inductive ColumnKind where
  | text
  | number
  | boolean
  | dateTime
  /-- A column of any type, by its text. -/
  | coerced
deriving DecidableEq, Repr

/-- What a column is wanted for. -/
inductive Purpose where
  | filter
  | sort
deriving DecidableEq, Repr

def Purpose.word : Purpose → String
  | .filter => "filterable"
  | .sort => "sortable"

inductive ColumnError where
  | unknown (column : String)
  | notAllowed (column : String) (purpose : Purpose)
deriving DecidableEq, Repr

def ColumnError.message : ColumnError → String
  | .unknown column => "Unknown column: " ++ column
  | .notAllowed column purpose => "Column " ++ column ++ " is not " ++ purpose.word

end DataGrid
