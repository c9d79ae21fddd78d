import DataGrid.Settings

/-!
# Answers to requests

A request is answered in two ways: by the SQL statement that gets the rows from a database, or by
the rows themselves, when all rows are there.
-/

namespace DataGrid

/-- Reads a request within limits. -/
def Request.accept (limits : Limits) (text : String) : Logged (Except RequestError Request) :=
  match Request.parse limits text with
  | .error error => pure (.error error)
  | .ok request => do
    if request.usesGrouping then
      log .groupingIgnored
    return .ok request

namespace Settings

/-- The table that statements are for. -/
def sqlTable (settings : Settings) : Sql.Table :=
  ⟨settings.dialect, settings.table.name, settings.columns⟩

/-- Reads a request and logs why it is refused. -/
def accept (settings : Settings) (text : String) : Logged (Except Failure Request) := do
  match ← Request.accept settings.limits text with
  | .error error =>
    log (.requestRejected error)
    return .error (.requestRejected error)
  | .ok request => return .ok request

/-- The statement that answers a request. -/
def statement (settings : Settings) (request : Request) : Logged Sql.Statement := do
  let query ← Query.create settings.sqlTable.backend request
  settings.sqlTable.select query

/-- Answers the text of a request by a statement. -/
def compile (settings : Settings) (text : String) : Logged (Except Failure Json) := do
  match ← settings.accept text with
  | .error failure => return .error failure
  | .ok request =>
    let statement ← settings.statement request
    return .ok <| .object
      [("dialect", .text settings.dialect.name), ("sql", .text statement.sql),
        ("params", .array (statement.parameters.map (·.toJson)))]

/-- The query of a request on rows and the rows that it asks for. Cells are found by the ids of
columns, whatever their names in the database. -/
def select (settings : Settings) (request : Request) (rows : List Memory.Row) :
    Logged (Query (Memory.Row → Bool) × List Memory.Row) := do
  let known := settings.columns.ids?
  let query ← Query.create (Memory.backend known) request
  let rows ← Memory.execute known query rows
  return (query, rows)

/-- Answers the text of a request by rows. -/
def query (settings : Settings) (text rowsText : String) : Logged (Except Failure Json) := do
  match ← settings.accept text with
  | .error failure => return .error failure
  | .ok request =>
    match Memory.parseRows rowsText with
    | .error error => return .error (.rowsRejected error)
    | .ok rows =>
      let (query, rows) ← settings.select request rows
      return .ok <| .object
        [("page", .ofOption Page.toJson query.page), ("rowCount", .nat rows.length),
          ("rows", Memory.rowsToJson rows)]

end Settings

end DataGrid
