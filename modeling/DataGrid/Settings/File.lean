import DataGrid.Dictionary
import DataGrid.Json.Choice
import DataGrid.Sql.Dialect

/-!
# Settings files

A settings file is a JSON object with three sections, which may be missing, as may be all their
fields. Sections and entries are objects, or arrays of all their fields in order. Members of the
file with other names are read like all values and kept by name, since they may be misspelled; those
of sections and entries are skipped.
-/

namespace DataGrid.Settings

open Json (Fault Reader)
open Json.Reader (Stranger choice entries field flag nat64 openRecord orNull record text)

/-- An entry of the list of columns. -/
structure ColumnEntry where
  name : Option String := none
  filterable : Option Bool := none
  sortable : Option Bool := none
deriving DecidableEq, Repr

/-- The section about the database that statements are for. -/
structure SqlSection where
  dialect : Option Sql.Dialect := none
  table : Option String := none
deriving DecidableEq, Repr

/-- The section about the limits of requests. -/
structure LimitsSection where
  maxBytes : Option Nat := none
  maxColumns : Option Nat := none
  maxDepth : Option Nat := none
deriving DecidableEq, Repr

/-- The settings in a file, or in several. -/
structure File where
  sql : Option SqlSection := none
  columns : Option (Dictionary ColumnEntry) := none
  limits : Option LimitsSection := none
  /-- The names of members that are no section. -/
  unknown : List String := []

def ColumnEntry.read : Reader ColumnEntry := record false
  [field "name" (orNull text) fun name entry => { entry with name },
    field "filterable" (orNull flag) fun filterable entry => { entry with filterable },
    field "sortable" (orNull flag) fun sortable entry => { entry with sortable }]
  {}

def SqlSection.read : Reader SqlSection := record false
  [field "dialect" (orNull (choice Sql.Dialect.ofName?)) fun dialect sql => { sql with dialect },
    field "table" (orNull text) fun table sql => { sql with table }]
  {}

def LimitsSection.read : Reader LimitsSection := record false
  [field "max_request_bytes" (orNull nat64) fun maxBytes limits => { limits with maxBytes },
    field "max_filter_columns" (orNull nat64) fun maxColumns limits => { limits with maxColumns },
    field "max_filter_depth" (orNull nat64) fun maxDepth limits => { limits with maxDepth }]
  {}

/-- The fields of two sections, of which those of the second one count where they are set. -/
def SqlSection.overlay (lower upper : SqlSection) : SqlSection where
  dialect := upper.dialect <|> lower.dialect
  table := upper.table <|> lower.table

def LimitsSection.overlay (lower upper : LimitsSection) : LimitsSection where
  maxBytes := upper.maxBytes <|> lower.maxBytes
  maxColumns := upper.maxColumns <|> lower.maxColumns
  maxDepth := upper.maxDepth <|> lower.maxDepth

/-- A section of two files, which may be missing in both. Where it is there in the second file, it is put
over that of the first one, or else over an empty one. -/
def overlaySection {σ : Type} (overlay : σ → σ → σ) (empty : σ) (lower : Option σ) :
    Option σ → Option σ
  | none => lower
  | some upper => some (overlay (lower.getD empty) upper)

namespace File

/-- The entries of a list of columns; of those with the same id the last one counts. -/
def readColumns : Reader (Dictionary ColumnEntry) := fun room tree => do
  return Dictionary.ofList (← entries ColumnEntry.read room tree)

/-- The sections of a file. -/
def sections : List (Reader.Field File) :=
  [field "sql" (orNull SqlSection.read) fun sql file => { file with sql },
    field "columns" (orNull readColumns) fun columns file => { file with columns },
    field "limits" (orNull LimitsSection.read) fun limits file => { file with limits }]

/-- Keeps the name of a member that is no section, at its first place if it repeats. -/
def keepName : Stranger File := fun room name tree file => do
  let _ ← tree.raw room
  return if name ∈ file.unknown then file else { file with unknown := file.unknown ++ [name] }

def read : Reader File := openRecord sections keepName {}

def parse (text : String) : Except Fault File := Json.decode read text

/-- The settings of two files, of which the second one counts where it says something. A list of
columns replaces the other as a whole. Unknown names have been reported when their file was read. -/
def overlay (lower upper : File) : File where
  sql := overlaySection .overlay {} lower.sql upper.sql
  columns := upper.columns <|> lower.columns
  limits := overlaySection .overlay {} lower.limits upper.limits
  unknown := lower.unknown

end File

end DataGrid.Settings
