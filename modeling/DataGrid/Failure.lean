import DataGrid.Files
import DataGrid.Memory

/-!
# Failures

Why a run gives no answer. A failure has a message, and mostly a cause.
-/

namespace DataGrid

inductive Failure where
  | settingsNotFound (path : String)
  | settingsUnreadable (path : String) (fault : FileFault)
  | settingsInvalid (path : String) (fault : Json.Fault)
  | invalidTable (name : String)
  | invalidColumns (error : ColumnError)
  | limitsNotPositive
  | requestUnreadable (path : String) (fault : FileFault)
  | rowsUnreadable (path : String) (fault : FileFault)
  | requestRejected (error : RequestError)
  | rowsRejected (error : Memory.RowsError)
deriving DecidableEq

/-- What a failure comes from. -/
inductive Failure.Cause where
  | file (fault : FileFault)
  | json (fault : Json.Fault)
  | column (error : ColumnError)
  | request (error : RequestError)
  | rows (error : Memory.RowsError)
deriving DecidableEq

namespace Failure

def message : Failure → String
  | settingsNotFound path => "Config file not found: " ++ path
  | settingsUnreadable path _ => "Failed to read config file: " ++ path
  | settingsInvalid path _ => "Failed to parse config file: " ++ path
  | invalidTable name => "Invalid table name '" ++ name ++ "': expected a plain SQL identifier"
  | invalidColumns _ => "Invalid column whitelist in config"
  | limitsNotPositive => "limits.max_request_bytes and limits.max_filter_depth must be positive"
  | requestUnreadable path _ => "Failed to read request file: " ++ path
  | rowsUnreadable path _ => "Failed to read rows file: " ++ path
  | requestRejected _ => "Invalid grid request"
  | rowsRejected _ => "Invalid rows file"

def cause? : Failure → Option Cause
  | settingsNotFound _ => none
  | settingsUnreadable _ fault => some (.file fault)
  | settingsInvalid _ fault => some (.json fault)
  | invalidTable _ => none
  | invalidColumns error => some (.column error)
  | limitsNotPositive => none
  | requestUnreadable _ fault => some (.file fault)
  | rowsUnreadable _ fault => some (.file fault)
  | requestRejected error => some (.request error)
  | rowsRejected error => some (.rows error)

end Failure

end DataGrid
