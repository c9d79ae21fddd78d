/-!
# Comparisons

The six comparisons that a cell and a value can be put to.
-/

namespace DataGrid

inductive Comparison where
  | equal
  | notEqual
  | less
  | lessOrEqual
  | greater
  | greaterOrEqual
deriving DecidableEq, Repr

namespace Comparison

/-- Whether a comparison holds between two things in this order. -/
def accepts : Comparison → Ordering → Bool
  | equal, order => order = .eq
  | notEqual, order => order ≠ .eq
  | less, order => order = .lt
  | lessOrEqual, order => order ≠ .gt
  | greater, order => order = .gt
  | greaterOrEqual, order => order ≠ .lt

/-- The operator in SQL. -/
def symbol : Comparison → String
  | equal => "="
  | notEqual => "<>"
  | less => "<"
  | lessOrEqual => "<="
  | greater => ">"
  | greaterOrEqual => ">="

end Comparison

end DataGrid
