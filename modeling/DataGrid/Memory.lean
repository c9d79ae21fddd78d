import DataGrid.Memory.Cell
import DataGrid.Query

/-!
# Queries on rows in memory

A predicate is a function on rows. Nulls are treated as in SQL: a null cell fails every comparison,
also those for "not equal" and "not like", and so does a cell that is not of the wanted kind.
-/

namespace DataGrid.Memory

open Json (Fault Reader)

/-- A column, and how a filter looks at it. -/
structure Column where
  name : String
  kind : ColumnKind
deriving DecidableEq, Repr

namespace Column

/-- The cell of a row in this column, unless it is null. -/
def cell? (column : Column) (row : Row) : Option Json := row.cell? column.name

/-- What a filter sees in this column. -/
def value? (column : Column) (row : Row) : Option Value :=
  column.cell? row >>= Cell.value? column.kind

end Column

/-- The ids that may be used; all when there is no list of them. -/
abbrev Known := Option (List String)

def Known.has (known : Known) (id : String) : Bool :=
  match known with
  | none => true
  | some ids => ids.contains id

/-- The backend of predicates on rows. -/
def backend (known : Known) : Backend Column (Row → Bool) where
  column id kind := if known.has id then .ok ⟨id, kind⟩ else .error (.unknown id)
  compare comparison column value row :=
    match column.value? row with
    | none => false
    | some cell => (cell.compare? value).any comparison.accepts
  like negated column pattern row :=
    match column.value? row with
    | some (.text text) => Like.matchesText pattern text != negated
    | _ => false
  null negated column row := (column.cell? row).isNone != negated
  all predicates row := predicates.all fun predicate => predicate row
  any predicates row := predicates.any fun predicate => predicate row
  always _ := true

/-- The order of two rows by one key; null cells come last in both directions. -/
def compareBy (key : Sort.Key) (a b : Row) : Ordering :=
  match a.cell? key.column, b.cell? key.column with
  | none, none => .eq
  | none, some _ => .gt
  | some _, none => .lt
  | some x, some y =>
    if key.direction.isDescending then (Cell.compare x y).swap else Cell.compare x y

/-- The order of two rows by the first key that tells them apart. -/
def compareRows (keys : List Sort.Key) (a b : Row) : Ordering :=
  match keys with
  | [] => .eq
  | key :: keys => (compareBy key a b).then (compareRows keys a b)

/-- The keys on columns that may be used. -/
def knownKeys (known : Known) : List Sort.Key → Logged (List Sort.Key)
  | [] => pure []
  | key :: keys =>
    if known.has key.column then do
      return key :: (← knownKeys known keys)
    else do
      log (.sortKeySkipped key.column none)
      knownKeys known keys

/-- Sorts rows; those that no key tells apart stay in their order. -/
def sortRows (known : Known) (keys : List Sort.Key) (rows : List Row) : Logged (List Row) := do
  let keys ← knownKeys known keys
  return rows.mergeSort fun a b => (compareRows keys a b).isLE

/-- The rows of a page. -/
def pageRows (page : Option Page) (rows : List Row) : List Row :=
  match page with
  | none => rows
  | some page => (rows.drop page.offset.toNat).take page.size.toNat

/-- The rows that a query asks for. -/
def execute (known : Known) (query : Query (Row → Bool)) (rows : List Row) :
    Logged (List Row) := do
  let matched ← sortRows known query.sort (rows.filter query.predicate)
  let returned := pageRows query.page matched
  log (.queryExecuted rows.length matched.length returned.length)
  return returned

/-- Why a text is no list of rows. -/
inductive RowsError where
  | invalid (fault : Fault)
  | notAnObject (index : Nat)
deriving DecidableEq, Repr

/-- The text of an error; a fault in the JSON text has no text here. -/
def RowsError.message? : RowsError → Option String
  | invalid _ => none
  | notAnObject index => some ("Row " ++ toString index ++ " is not a JSON object")

/-- The values as rows, numbered from `index` on. -/
def rowsOfValues (index : Nat) : List Json → Except RowsError (List Row)
  | [] => .ok []
  | .object row :: values => do
    return row :: (← rowsOfValues (index + 1) values)
  | _ :: _ => .error (.notAnObject index)

/-- Reads an array of rows. -/
def parseRows (text : String) : Except RowsError (List Row) :=
  match Json.decode (Reader.list Reader.value) text with
  | .error fault => .error (.invalid fault)
  | .ok values => rowsOfValues 0 values

def rowsToJson (rows : List Row) : Json := .array (rows.map .object)

end DataGrid.Memory
