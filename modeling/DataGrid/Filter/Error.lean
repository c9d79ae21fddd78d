import DataGrid.Column
import DataGrid.DateTime.Pattern

/-!
# Errors of filters

Why a single filter condition cannot be compiled. It is left out then, and the rest still applies.
-/

namespace DataGrid.Filter

inductive Error where
  | invalidDate (text : String) (fault : DateTime.Fault)
  | column (error : ColumnError)
deriving DecidableEq, Repr

def Error.message : Error → String
  | .invalidDate text fault =>
    "Invalid date '" ++ text ++ "', expected yyyy-MM-dd HH:mm:ss: " ++ fault.message
  | .column error => error.message

end DataGrid.Filter
