import DataGrid.Binary64.Text
import DataGrid.DateTime.Text
import DataGrid.Json

/-!
# Values

The values that cells are compared with: in predicates over rows they stand for themselves, and in
SQL they are the parameters of a statement.
-/

namespace DataGrid

inductive Value where
  | text (value : String)
  | number (value : Binary64)
  | bool (value : Bool)
  | dateTime (value : DateTime)
deriving DecidableEq

namespace Value

/-- The plain text of a value. -/
def display : Value → String
  | text s => s
  | number x => String.ofList x.chars
  | bool true => "true"
  | bool false => "false"
  | dateTime d => d.toGrid

def toJson : Value → Json
  | text s => .string s
  | number x => .real x
  | bool b => .bool b
  | dateTime d => .string d.toGrid

/-- The order of two values of one kind; those of different kinds have none, nor has NaN. -/
def compare? : Value → Value → Option Ordering
  | text a, text b => some (compare a b)
  | number a, number b => a.compare? b
  | bool a, bool b => some (compare a b)
  | dateTime a, dateTime b => some (compare a b)
  | _, _ => none

end Value

end DataGrid
