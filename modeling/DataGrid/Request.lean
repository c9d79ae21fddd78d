import DataGrid.Filter.Decode
import DataGrid.Filter.Encode
import DataGrid.Sort

/-!
# Requests for rows

What a grid asks for: a range of rows, an order, filters, and settings for grouping, which are read
and not used. A request is refused when its text, its number of filters or the depth of a filter is
beyond a limit.
-/

namespace DataGrid

/-- A column that rows are grouped by or that is aggregated. -/
structure GroupColumn where
  id : String
  displayName : Option String
  field : Option String
deriving DecidableEq, Repr

structure Request where
  startRow : Option Int64 := none
  endRow : Option Int64 := none
  sortModel : List Sort.Entry := []
  filterModel : Filter.Model := .empty
  rowGroupColumns : List GroupColumn := []
  valueColumns : List GroupColumn := []
  pivotColumns : List GroupColumn := []
  pivotMode : Bool := false
  groupKeys : List String := []

/-- The largest requests that are accepted. -/
structure Limits where
  /-- The bytes of the text in UTF-8. -/
  bytes : Nat := 262144
  /-- The filtered columns. -/
  columns : Nat := 100
  /-- The depth of a filter. -/
  depth : Nat := 16
deriving DecidableEq, Repr

inductive RequestError where
  | tooLarge (max : Nat)
  | invalidJson (fault : Json.Fault)
  | tooManyFilters (count max : Nat)
  | filterTooDeep (column : String) (depth max : Nat)
deriving DecidableEq, Repr

namespace RequestError

def code : RequestError → String
  | tooLarge _ => "REQUEST_TOO_LARGE"
  | invalidJson _ => "INVALID_REQUEST_JSON"
  | tooManyFilters .. => "TOO_MANY_FILTERS"
  | filterTooDeep .. => "FILTER_TOO_DEEP"

/-- The text of an error; a fault in the JSON text has no text here. -/
def message? : RequestError → Option String
  | tooLarge max => some ("Request exceeds maximum size of " ++ toString max ++ " bytes")
  | invalidJson _ => none
  | tooManyFilters count max =>
    some ("Maximum " ++ toString max ++ " filtered columns allowed, got " ++ toString count)
  | filterTooDeep column depth max =>
    some ("Filter for column " ++ column ++ " is nested " ++ toString depth
      ++ " levels deep (maximum " ++ toString max ++ ")")

end RequestError

namespace GroupColumn

def toJson (column : GroupColumn) : Json :=
  .object [("id", .text column.id), ("displayName", .ofOption .text column.displayName),
    ("field", .ofOption .text column.field)]

/-- A column while it is read. -/
structure Draft where
  id : Option String := none
  displayName : Option String := none
  field : Option String := none

open Json Reader in
def read : Reader GroupColumn := fun room tree => do
  let draft ← record true
    [Reader.field "id" text fun id draft => { draft with id := some id },
      Reader.field "displayName" (orNull text) fun displayName draft => { draft with displayName },
      Reader.field "field" (orNull text) fun field draft => { draft with field }]
    ({} : Draft) room tree
  return ⟨← required draft.id, draft.displayName, draft.field⟩

end GroupColumn

namespace Request

open Json Reader in
/-- Reads a request. All its fields may be missing. -/
def read : Reader Request := record true
  [field "startRow" (orNull int64) fun startRow request => { request with startRow },
    field "endRow" (orNull int64) fun endRow request => { request with endRow },
    field "sortModel" (orDefault [] (list Sort.Entry.read))
      fun sortModel request => { request with sortModel },
    field "filterModel" (orDefault .empty Filter.Model.read)
      fun filterModel request => { request with filterModel },
    field "rowGroupCols" (orDefault [] (list GroupColumn.read))
      fun rowGroupColumns request => { request with rowGroupColumns },
    field "valueCols" (orDefault [] (list GroupColumn.read))
      fun valueColumns request => { request with valueColumns },
    field "pivotCols" (orDefault [] (list GroupColumn.read))
      fun pivotColumns request => { request with pivotColumns },
    field "pivotMode" (orDefault false flag) fun pivotMode request => { request with pivotMode },
    field "groupKeys" (orDefault [] (list text)) fun groupKeys request => { request with groupKeys }]
  {}

/-- Whether a request has settings for grouping. -/
def usesGrouping (request : Request) : Bool :=
  request.pivotMode || !request.rowGroupColumns.isEmpty || !request.valueColumns.isEmpty
    || !request.pivotColumns.isEmpty || !request.groupKeys.isEmpty

/-- The first filter beyond the limit, in the order of the columns' ids. -/
def tooDeep? (limits : Limits) (model : Filter.Model) : Option (String × Filter.Node) :=
  model.entries.find? fun entry => limits.depth < entry.2.depth

/-- Reads the text of a request within limits. -/
def parse (limits : Limits) (text : String) : Except RequestError Request :=
  if limits.bytes < text.utf8ByteSize then
    .error (.tooLarge limits.bytes)
  else
    match Json.decode read text with
    | .error fault => .error (.invalidJson fault)
    | .ok request =>
      if limits.columns < request.filterModel.size then
        .error (.tooManyFilters request.filterModel.size limits.columns)
      else
        match tooDeep? limits request.filterModel with
        | some (column, node) => .error (.filterTooDeep column node.depth limits.depth)
        | none => .ok request

def toJson (request : Request) : Json :=
  let columns (list : List GroupColumn) : Json := .array (list.map (·.toJson))
  .object
    [("startRow", .ofOption (.int ·.toInt) request.startRow),
      ("endRow", .ofOption (.int ·.toInt) request.endRow),
      ("sortModel", .array (request.sortModel.map (·.toJson))),
      ("filterModel", request.filterModel.toJson),
      ("rowGroupCols", columns request.rowGroupColumns),
      ("valueCols", columns request.valueColumns),
      ("pivotCols", columns request.pivotColumns),
      ("pivotMode", .bool request.pivotMode),
      ("groupKeys", .array (request.groupKeys.map .text))]

end Request

end DataGrid
