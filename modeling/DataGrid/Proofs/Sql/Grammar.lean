import DataGrid.Proofs.Sql.Rendering
import DataGrid.Proofs.Sql.Truth

/-!
# The grammar of conditions

A condition is read from tokens as SQL reads it: `AND` binds more tightly than `OR`, and parentheses
group. A column is a quoted name or the dialect's conversion of one to text, a value is a placeholder
or the dialect's conversion of one to a timestamp. What is read has a meaning once there are parameters
for the placeholders.
-/

namespace DataGrid.Sql

/-- The place of a parameter, and whether its text is converted to a timestamp. -/
structure Slot where
  number : Nat
  timestamp : Bool
deriving DecidableEq, Repr

/-- A condition as it is read. -/
inductive Clause where
  | never
  | compare (column : Reference) (comparison : Comparison) (slot : Slot)
  | like (column : Reference) (negated : Bool) (slot : Slot)
  | null (column : Reference) (negated : Bool)
  | and (left right : Clause)
  | or (left right : Clause)
deriving DecidableEq, Repr

/-- The value of a placeholder. Parameters are numbered from 1 on; a date-time is bound as its text,
and only a conversion makes a date-time of that again. -/
def Slot.value? (slot : Slot) (parameters : List Value) : Option Value :=
  match slot.number with
  | 0 => none
  | n + 1 =>
    match slot.timestamp, parameters[n]? with
    | true, some (.dateTime d) => some (.dateTime d)
    | true, _ => none
    | false, some (.dateTime d) => some (.text d.toGrid)
    | false, value => value

/-- The truth of a condition on a row of the database, with these parameters. -/
def Clause.eval (parameters : List Value) (row : Memory.Row) : Clause → Truth
  | never => .no
  | compare column comparison slot =>
    match slot.value? parameters with
    | some value => column.compare comparison value row
    | none => .unknown
  | like column negated slot =>
    match slot.value? parameters with
    | some (.text pattern) => column.like negated pattern row
    | _ => .unknown
  | null column negated => column.null negated row
  | and left right => (left.eval parameters row).and (right.eval parameters row)
  | or left right => (left.eval parameters row).or (right.eval parameters row)

/-! ### Reading from tokens -/

/-- What the first tokens are, and the rest. -/
abbrev Reader (α : Type) := List Token → Option (α × List Token)

namespace Dialect

def readColumn : Dialect → Reader Reference
  | duckdb, .keyword .CAST :: .opening :: .name s :: .keyword .AS :: .keyword .VARCHAR :: .closing :: ts
  | sqlite, .keyword .CAST :: .opening :: .name s :: .keyword .AS :: .keyword .TEXT :: .closing :: ts
  | postgres, .name s :: .conversion :: .keyword .TEXT :: ts => some (⟨s, true⟩, ts)
  | _, .name s :: ts => some (⟨s, false⟩, ts)
  | _, _ => none

def readSlot : Dialect → Reader Slot
  | duckdb,
    .keyword .CAST :: .opening :: .placeholder n :: .keyword .AS :: .keyword .TIMESTAMP :: .closing :: ts
  | sqlite, .keyword .DATETIME :: .opening :: .placeholder n :: .closing :: ts
  | postgres, .placeholder n :: .conversion :: .keyword .TIMESTAMP :: ts => some (⟨n, true⟩, ts)
  | _, .placeholder n :: ts => some (⟨n, false⟩, ts)
  | _, _ => none

end Dialect

namespace Clause

/-- The pattern of a column, after `LIKE`. -/
def readPattern (dialect : Dialect) (column : Reference) (negated : Bool) : Reader Clause := fun ts =>
  match dialect.readSlot ts with
  | some (slot, .keyword .ESCAPE :: .literal escape :: ts) =>
    if escape = "\\" then some (.like column negated slot, ts) else none
  | _ => none

/-- What is asked of a column. -/
def readTest (dialect : Dialect) (column : Reference) : Reader Clause
  | .comparison comparison :: ts =>
    (dialect.readSlot ts).map fun (slot, ts) => (.compare column comparison slot, ts)
  | .keyword .LIKE :: ts => readPattern dialect column false ts
  | .keyword .NOT :: .keyword .LIKE :: ts => readPattern dialect column true ts
  | .keyword .IS :: .keyword .NULL :: ts => some (.null column false, ts)
  | .keyword .IS :: .keyword .NOT :: .keyword .NULL :: ts => some (.null column true, ts)
  | _ => none

def readAtom (dialect : Dialect) : Reader Clause := fun ts =>
  match dialect.readColumn ts, ts with
  | some (column, ts), _ => readTest dialect column ts
  | none, .number 1 :: .comparison .equal :: .number 0 :: ts => some (.never, ts)
  | none, _ => none

/-- Conditions with a separator between them, at most `n`. -/
def readChain (separator : Token) (join : Clause → Clause → Clause) (read : Reader Clause) :
    Nat → Reader Clause
  | 0, _ => none
  | n + 1, ts =>
    match read ts with
    | none => none
    | some (clause, ts) =>
      if ts.head? = some separator then
        (readChain separator join read n ts.tail).map fun (clauses, ts) => (join clause clauses, ts)
      else some (clause, ts)

/-- A condition whose factors are read as given. -/
def readJunctions (factor : Reader Clause) (n : Nat) : Reader Clause :=
  readChain (.keyword .OR) .or (readChain (.keyword .AND) .and factor n) n

/-- An atom, or a condition in parentheses, nested less than `n` deep. -/
def readFactor (dialect : Dialect) : Nat → Reader Clause
  | 0, _ => none
  | n + 1, .opening :: ts =>
    match readJunctions (readFactor dialect n) n ts with
    | some (clause, .closing :: ts) => some (clause, ts)
    | _ => none
  | _ + 1, ts => readAtom dialect ts

/-- The condition that all these tokens are. -/
def ofTokens? (dialect : Dialect) (ts : List Token) : Option Clause :=
  match readJunctions (readFactor dialect ts.length) ts.length ts with
  | some (clause, []) => some clause
  | _ => none

/-- The condition that the whole text is. -/
def ofText? (dialect : Dialect) (text : String) : Option Clause :=
  ofTokens? dialect (scan 0 text.toList)

end Clause

end DataGrid.Sql
