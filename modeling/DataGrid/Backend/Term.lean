import DataGrid.Backend

/-!
# Terms over backends

A term says which predicate to make, whatever the backend: comparisons of columns with values, and
their conjunctions and disjunctions. Building the same term with two backends gives two forms of one
predicate.
-/

namespace DataGrid.Backend

inductive Term where
  | always
  | compare (comparison : Comparison) (id : String) (kind : ColumnKind) (value : Value)
  | like (negated : Bool) (id : String) (kind : ColumnKind) (pattern : String)
  | null (negated : Bool) (id : String) (kind : ColumnKind)
  | all (terms : List Term)
  | any (terms : List Term)

variable {γ π : Type} (backend : Backend γ π)

mutual

/-- The predicate of a term, unless a column cannot be used. -/
def build : Term → Except ColumnError π
  | .always => .ok backend.always
  | .compare comparison id kind value => do
    return backend.compare comparison (← backend.column id kind) value
  | .like negated id kind pattern => do
    return backend.like negated (← backend.column id kind) pattern
  | .null negated id kind => do
    return backend.null negated (← backend.column id kind)
  | .all terms => do
    return backend.all (← buildAll terms)
  | .any terms => do
    return backend.any (← buildAll terms)

def buildAll : List Term → Except ColumnError (List π)
  | [] => .ok []
  | term :: terms => do
    let predicate ← build term
    return predicate :: (← buildAll terms)

end

end DataGrid.Backend
