import DataGrid.Filter.Compile

/-!
# Queries

What a request comes to for a backend: a predicate, sort keys, and a page where the range of rows
makes one.
-/

namespace DataGrid

structure Query (π : Type) where
  predicate : π
  sort : List Sort.Key
  page : Option Page

/-- The sort keys of a sort model. -/
def Sort.create (model : List Entry) : Logged (List Key) := do
  let keys := keys model
  log (.sortCreated keys)
  return keys

/-- The page of a range of rows. A range that is none is logged, and all rows are asked for. -/
def Page.create (start stop : Option Int64) (sort : List Sort.Key) : Logged (Option Page) :=
  match ofRange start stop sort with
  | .ok page => do
    log (.pageCreated page start stop)
    return page
  | .error error => do
    log (.pageRejected error)
    return none

def Query.create {γ π : Type} (backend : Backend γ π) (request : Request) :
    Logged (Query π) := do
  let predicate ← Filter.Model.compile backend request.filterModel
  let sort ← Sort.create request.sortModel
  let page ← Page.create request.startRow request.endRow sort
  return ⟨predicate, sort, page⟩

end DataGrid
