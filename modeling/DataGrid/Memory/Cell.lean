import DataGrid.Column
import DataGrid.Json.Printer
import DataGrid.Value

/-!
# Cells

Rows are JSON objects, and their members are cells. A cell is looked at as text, number, truth value
or date, as far as it can be, and two cells have an order whatever they are. A missing cell is the
same as null.
-/

namespace DataGrid.Memory

abbrev Row := List (String × Json)

/-- The cell of a row, unless it is null. -/
def Row.cell? (row : Row) (name : String) : Option Json :=
  (row.lookup name).filter fun cell => !cell.isNull

namespace Cell

/-- The text of a cell: a string as it is, all else as JSON. -/
def text : Json → String
  | .string s => s
  | cell => cell.compact

def number? : Json → Option Binary64
  | .number n => some n.toBinary64
  | .string s => Binary64.ofChars? (trimBlanks s.toList)
  | _ => none

def bool? : Json → Option Bool
  | .bool b => some b
  | .string s => if s = "true" then some true else if s = "false" then some false else none
  | _ => none

def dateTime? : Json → Option DateTime
  | .string s => DateTime.ofCell? s
  | _ => none

/-- The value that a filter of this kind sees in a cell. -/
def value? (kind : ColumnKind) (cell : Json) : Option Value :=
  match kind with
  | .text => some (.text (text cell))
  | .coerced => some (.text (text cell))
  | .number => (number? cell).map .number
  | .boolean => (bool? cell).map .bool
  | .dateTime => (dateTime? cell).map .dateTime

/-- The order of the types of cells. -/
def typeRank : Json → Nat
  | .null => 0
  | .bool _ => 1
  | .number _ => 2
  | .string _ => 3
  | .array _ => 4
  | .object _ => 5

/-- The order of two cells: by value when both are numbers, strings or truth values, else by type
and then by text. -/
def compare : Json → Json → Ordering
  | .number a, .number b => (a.toBinary64.compare? b.toBinary64).getD .eq
  | .string a, .string b => Ord.compare a b
  | .bool a, .bool b => Ord.compare a b
  | a, b => (Ord.compare (typeRank a) (typeRank b)).then (Ord.compare a.compact b.compact)

end Cell

end DataGrid.Memory
