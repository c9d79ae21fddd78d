import DataGrid.Json.Reader

/-!
# Sorting

A sort model lists columns with the directions that were asked for; the sort keys that come from it
are a list of columns with directions, the weightiest first. Every direction but `asc` is descending.
-/

namespace DataGrid.Sort

/-- An entry of a sort model. -/
structure Entry where
  column : String
  direction : Option String
deriving DecidableEq, Repr

inductive Direction where
  | ascending
  | descending
deriving DecidableEq, Repr

structure Key where
  column : String
  direction : Direction
deriving DecidableEq, Repr

namespace Direction

def ofWord (word : Option String) : Direction :=
  if word = some "asc" then ascending else descending

def isDescending : Direction → Bool
  | ascending => false
  | descending => true

/-- The direction as an SQL keyword. -/
def keyword : Direction → String
  | ascending => "ASC"
  | descending => "DESC"

def word : Direction → String
  | ascending => "asc"
  | descending => "desc"

end Direction

namespace Entry

def key (entry : Entry) : Key := ⟨entry.column, .ofWord entry.direction⟩

def toJson (entry : Entry) : Json :=
  .object [("colId", .text entry.column), ("sort", .ofOption .text entry.direction)]

/-- An entry while it is read. -/
structure Draft where
  column : Option String := none
  direction : Option String := none

open Json Reader in
def read : Reader Entry := fun room tree => do
  let draft ← record true
    [field "colId" text fun column draft => { draft with column := some column },
      field "sort" (orNull text) fun direction draft => { draft with direction }]
    ({} : Draft) room tree
  return ⟨← required draft.column, draft.direction⟩

end Entry

/-- The sort keys of a sort model. -/
def keys (model : List Entry) : List Key := model.map (·.key)

def Key.toJson (key : Key) : Json :=
  .object [("column", .text key.column), ("direction", .text key.direction.word)]

def toJson (keys : List Key) : Json := .array (keys.map (·.toJson))

/-- Sort keys for the log. -/
def display : List Key → String
  | [] => "UNSORTED"
  | keys => ", ".intercalate (keys.map fun key => key.column ++ ": " ++ key.direction.keyword)

end DataGrid.Sort
