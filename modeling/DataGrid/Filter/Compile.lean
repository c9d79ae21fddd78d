import DataGrid.Backend
import DataGrid.Like
import DataGrid.Log

/-!
# Compiling filters

A filter model becomes one predicate of a backend, the conjunction of what its columns give. A
condition gives a predicate, or nothing when a part that it needs is missing, or an error. Errors
are logged, and the conditions with errors are left out, as are those that give nothing.
-/

namespace DataGrid.Filter

variable {γ π : Type} (backend : Backend γ π)

/-- The predicate of a test of text. -/
def TextTest.compile (column : γ) (value : String) : TextTest → Option π
  | equals => some (backend.compare .equal column (.text value))
  | notEqual => some (backend.compare .notEqual column (.text value))
  | contains => some (backend.like false column ("%" ++ Like.escape value ++ "%"))
  | notContains => some (backend.like true column ("%" ++ Like.escape value ++ "%"))
  | startsWith => some (backend.like false column (Like.escape value ++ "%"))
  | endsWith => some (backend.like false column ("%" ++ Like.escape value))
  | blank => some (backend.null false column)
  | notBlank => some (backend.null true column)
  | unknown => none

/-- The predicate of a test of numbers or dates. Only a range needs the upper value, and it has no
upper end when that is missing. -/
def ScalarTest.compile (column : γ) (value : Value) (upper : Except Error (Option Value)) :
    ScalarTest → Except Error (Option π)
  | equals => .ok (backend.compare .equal column value)
  | notEqual => .ok (backend.compare .notEqual column value)
  | lessThan => .ok (backend.compare .less column value)
  | lessThanOrEqual => .ok (backend.compare .lessOrEqual column value)
  | greaterThan => .ok (backend.compare .greater column value)
  | greaterThanOrEqual => .ok (backend.compare .greaterOrEqual column value)
  | blank => .ok (backend.null false column)
  | notBlank => .ok (backend.null true column)
  | inRange => do
    let lower := backend.compare .greaterOrEqual column value
    match ← upper with
    | some upper => return backend.all [lower, backend.compare .lessOrEqual column upper]
    | none => return backend.all [lower, backend.always]
  | unknown => .ok none

/-- The column of a condition. -/
def lookUp (id : String) (kind : ColumnKind) : Except Error γ :=
  (backend.column id kind).mapError .column

/-- The value of a date in a filter. -/
def dateValue (text : String) : Except Error Value :=
  match DateTime.ofGrid text with
  | .ok date => .ok (.dateTime date)
  | .error fault => .error (.invalidDate text fault)

/-- The predicate of a condition on a column. A condition without a value gives nothing, whether
there is such a column or not; only a test of truth values needs none. -/
def Condition.compile (id : String) : Condition → Except Error (Option π)
  | text _ none | number _ none _ | date _ none _ | object _ none => .ok none
  | text test (some value) => do
    let column ← lookUp backend id .text
    return test.bind (TextTest.compile backend column value)
  | object test (some value) => do
    let column ← lookUp backend id .coerced
    return test.bind (TextTest.compile backend column value)
  | number test (some value) upper => do
    let column ← lookUp backend id .number
    match test with
    | none => return none
    | some test =>
      ScalarTest.compile backend column (.number value) (.ok (upper.map .number)) test
  | date test (some value) upper => do
    let column ← lookUp backend id .dateTime
    let value ← dateValue value
    match test with
    | none => return none
    | some test => ScalarTest.compile backend column value (upper.mapM dateValue) test
  | boolean test => do
    let column ← lookUp backend id .boolean
    return backend.compare .equal column (.bool (test = some .isTrue))

/-- The predicate of joined ones, if the join is known. -/
def Join.compile : Option Join → Option (List π → π)
  | some .and => some backend.all
  | some .or => some backend.any
  | some .unknown => none
  | none => none

/-- Keeps the predicate of a node and logs its error. -/
def keep (id : String) (node : Node) : Except Error (Option π) → Logged (Option π)
  | .ok predicate => pure predicate
  | .error error => do
    log (.columnFailed id node error)
    return none

mutual

/-- The predicate of a node on a column. A group of nodes has no error of its own. -/
def Node.compile (id : String) : Node → Logged (Except Error (Option π))
  | .single condition _ => pure (condition.compile backend id)
  | .group join nodes _ =>
    match Join.compile backend join with
    | none => do
      log (.groupSkipped id)
      return .ok none
    | some combine => do
      let predicates ← compileAll id nodes
      return .ok (combine predicates)

/-- The predicates of nodes on a column, without those that have none. -/
def compileAll (id : String) : List Node → Logged (List π)
  | [] => pure []
  | node :: nodes => do
    let predicate ← keep id node (← node.compile id)
    let predicates ← compileAll id nodes
    return predicate.toList ++ predicates

end

/-- The predicates of columns, without those that have none. -/
def compileEntries : List (String × Node) → Logged (List π)
  | [] => pure []
  | (id, node) :: entries => do
    let predicate ← keep id node (← node.compile backend id)
    let predicates ← compileEntries entries
    return predicate.toList ++ predicates

/-- The predicate of a filter model, which is true when no column gives one. -/
def Model.compile (model : Model) : Logged π := do
  let predicates ← compileEntries backend model.entries
  if model.size ≠ 0 then
    log (.predicateCreated model.size predicates.length)
  if predicates.isEmpty then
    return backend.always
  return backend.all predicates

end DataGrid.Filter
