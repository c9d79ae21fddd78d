import DataGrid.Failure
import DataGrid.Settings.File
import DataGrid.Sql

/-!
# Settings

What a run is set to: the database and table that statements are for, the columns that may be used,
and the limits of requests. Each comes from the options of the run, else from the settings file that
the options name, else from the one in the working directory, else it has a default.
-/

namespace DataGrid

structure Settings where
  dialect : Sql.Dialect
  table : Identifier
  columns : Sql.Columns
  limits : Limits

namespace Settings

/-- The options of a run. -/
structure Options where
  /-- The path of a settings file. -/
  path : Option String := none
  dialect : Option Sql.Dialect := none
  table : Option String := none
deriving DecidableEq, Repr

/-- The settings file in the working directory. -/
def localPath : String := "gridquery.json"

def defaultTable : String := "rows"

/-- A column is named by its id and may be used for everything, unless its entry says otherwise. -/
def ColumnEntry.toEntry (id : String) (entry : ColumnEntry) : Sql.Entry where
  id
  name := entry.name.getD id
  filterable := entry.filterable.getD true
  sortable := entry.sortable.getD true

/-- The columns that may be used. -/
def columnsOf : Option (Dictionary ColumnEntry) → Except Failure Sql.Columns
  | none => .ok .permissive
  | some list =>
    (Sql.Columns.restrict (list.entries.map fun entry => entry.2.toEntry entry.1)).mapError
      .invalidColumns

/-- The limits of requests; no request could pass if the first or the last one were zero. -/
def limitsOf (given : LimitsSection) : Except Failure Limits :=
  let defaults : Limits := {}
  let limits : Limits :=
    ⟨given.maxBytes.getD defaults.bytes, given.maxColumns.getD defaults.columns,
      given.maxDepth.getD defaults.depth⟩
  if limits.bytes = 0 ∨ limits.depth = 0 then .error .limitsNotPositive else .ok limits

/-- The settings from the options and what the files say. -/
def resolve (options : Options) (file : File) : Except Failure Settings := do
  let sql := file.sql.getD {}
  let name := (options.table <|> sql.table).getD defaultTable
  match Identifier.ofString? name with
  | none => .error (.invalidTable name)
  | some table =>
    let columns ← columnsOf file.columns
    let limits ← limitsOf (file.limits.getD {})
    return ⟨(options.dialect <|> sql.dialect).getD .duckdb, table, columns, limits⟩

/-- Reads one settings file. -/
def loadFile (files : Files) (path : String) : Logged (Except Failure File) := do
  log (.settingsFileLoading path)
  match files.read path with
  | .error fault => return .error (.settingsUnreadable path fault)
  | .ok text =>
    match File.parse text with
    | .error fault => return .error (.settingsInvalid path fault)
    | .ok file =>
      if !file.unknown.isEmpty then
        log (.settingsUnknown file.unknown)
      return .ok file

/-- Reads settings files in order, each over those before it. -/
def loadFiles (files : Files) (base : File) : List String → Logged (Except Failure File)
  | [] => pure (.ok base)
  | path :: paths =>
    if !files.has path then
      pure (.error (.settingsNotFound path))
    else do
      match ← loadFile files path with
      | .error failure => return .error failure
      | .ok file => loadFiles files (base.overlay file) paths

/-- The settings files of a run: the one in the working directory, if it is there, and the one that
the options name. -/
def paths (files : Files) (options : Options) : List String :=
  (if files.has localPath then [localPath] else []) ++ options.path.toList

/-- Reads the settings of a run. -/
def load (files : Files) (options : Options) : Logged (Except Failure Settings) := do
  log .settingsLoading
  let paths := paths files options
  match ← loadFiles files {} paths with
  | .error failure => return .error failure
  | .ok file =>
    log (.settingsFilesLoaded paths)
    match resolve options file with
    | .error failure => return .error failure
    | .ok settings =>
      log (.settingsLoaded settings.dialect.name settings.table.name settings.columns.isRestricted)
      return .ok settings

end Settings

end DataGrid
