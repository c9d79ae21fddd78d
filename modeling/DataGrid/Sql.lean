import DataGrid.Query
import DataGrid.Sql.Columns
import DataGrid.Sql.Expr

/-!
# Queries in SQL

A query becomes a `SELECT` with its parameters. Names of columns in it come from the columns of the
table, and values of filters are parameters.
-/

namespace DataGrid.Sql

/-- A column in a condition, or its text. -/
structure Column where
  name : Identifier
  asText : Bool
deriving DecidableEq

def Column.text (dialect : Dialect) (column : Column) : String :=
  if column.asText then dialect.castText (quote column.name.name) else quote column.name.name

/-- A condition on the columns of a table. -/
abbrev Condition := Expr Column

/-- A table in a database. -/
structure Table where
  dialect : Dialect
  name : String
  columns : Columns

/-- A statement with its parameters. -/
structure Statement where
  sql : String
  parameters : List Value

namespace Table

/-- The backend of SQL conditions. -/
def backend (table : Table) : Backend Column Condition where
  column id kind := do
    return ⟨← table.columns.resolve .filter id, kind = .coerced⟩
  compare comparison column value := .compare column comparison value
  like negated column pattern := .like column pattern negated
  null negated column := .null column negated
  all := .conj
  any := .disj
  always := .always

/-- The text of a condition with its parameters. -/
def bind (table : Table) (condition : Condition) : String × List Value :=
  Expr.bind table.dialect (Column.text table.dialect) [] condition

/-- The keys of an order on columns that may be sorted by. -/
def orderTerms (table : Table) : List Sort.Key → Logged (List String)
  | [] => pure []
  | key :: keys =>
    match table.columns.resolve .sort key.column with
    | .ok column => do
      let term := table.dialect.orderTerm (quote column.name) key.direction.isDescending true
      return term :: (← table.orderTerms keys)
    | .error error => do
      log (.sortKeySkipped key.column error)
      table.orderTerms keys

/-- The order of a statement, unless no key is left to sort by. -/
def orderBy (table : Table) (keys : List Sort.Key) : Logged (Option String) := do
  let terms ← table.orderTerms keys
  if terms.isEmpty then
    return none
  return ", ".intercalate terms

/-- A clause of a statement, if it has a body. -/
def clause (keyword : String) (body : Option String) : String :=
  match body with
  | none => ""
  | some body => keyword ++ body

/-- The condition that restricts the rows, with its parameters; one that is always true does not. -/
def restriction (table : Table) (condition : Condition) : Option String × List Value :=
  if condition.isAlways then
    (none, [])
  else
    let (text, parameters) := table.bind condition
    (some text, parameters)

/-- The statement of a query with an order. -/
def statement (table : Table) (query : Query Condition) (order : Option String) : Statement :=
  let (condition, parameters) := table.restriction query.predicate
  let page := query.page.map fun page => limitOffset page.size.toNat page.offset.toNat
  ⟨"SELECT * FROM " ++ quote table.name ++ clause " WHERE " condition ++ clause " ORDER BY " order
    ++ clause " " page, parameters⟩

/-- The statement of a query. -/
def select (table : Table) (query : Query Condition) : Logged Statement := do
  let statement := table.statement query (← table.orderBy query.sort)
  log (.queryRendered table.dialect.name statement.sql statement.parameters.length)
  return statement

end Table

end DataGrid.Sql
