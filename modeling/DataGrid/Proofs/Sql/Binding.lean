import DataGrid.Sql

/-!
# Values bound one after the other

A condition binds its values behind those that are bound already, and of these only the number shows in
its text (`bind_eq`). So both can be told of a condition by itself: `parameters` are its own values, and
`render` is its text when a number of values stand before them.
-/

namespace DataGrid.Sql

namespace Expr

variable {κ : Type}

mutual

/-- The values of a condition, from left to right. -/
def parameters : Expr κ → List Value
  | always => []
  | compare _ _ value => [value]
  | like _ pattern _ => [.text pattern]
  | null _ _ => []
  | all parts => listParameters parts
  | any parts => listParameters parts

def listParameters : List (Expr κ) → List Value
  | [] => []
  | part :: parts => part.parameters ++ listParameters parts

end

mutual

/-- The text of a condition after `bound` parameters. -/
def render (dialect : Dialect) (columnText : κ → String) (bound : Nat) : Expr κ → String
  | always => "1=1"
  | compare column comparison value =>
    columnText column ++ " " ++ comparison.symbol ++ " " ++ placeholder dialect bound value
  | like column pattern negated =>
    columnText column ++ (if negated then " NOT LIKE " else " LIKE ")
      ++ placeholder dialect bound (.text pattern) ++ " ESCAPE '\\'"
  | null column negated => columnText column ++ (if negated then " IS NOT NULL" else " IS NULL")
  | all parts => junction " AND " "1=1" (renderList dialect columnText bound parts)
  | any parts => junction " OR " "1=0" (renderList dialect columnText bound parts)

def renderList (dialect : Dialect) (columnText : κ → String) (bound : Nat) :
    List (Expr κ) → List String
  | [] => []
  | part :: parts =>
    part.render dialect columnText bound
      :: renderList dialect columnText (bound + part.parameters.length) parts

end

section
variable (dialect : Dialect) (columnText : κ → String)

mutual

/-- What is bound already stays as it is, and the condition's own values come behind it. -/
theorem bind_eq : ∀ (bound : List Value) (e : Expr κ),
    e.bind dialect columnText bound = (e.render dialect columnText bound.length, bound ++ e.parameters)
  | bound, always | bound, null .. => by rw [bind, render, parameters, List.append_nil]
  | bound, compare .. | bound, like .. => by
    rw [bind, render, parameters]
    rfl
  | bound, all parts | bound, any parts => by rw [bind, bindList_eq bound parts, render, parameters]

theorem bindList_eq : ∀ (bound : List Value) (parts : List (Expr κ)),
    bindList dialect columnText bound parts =
      (renderList dialect columnText bound.length parts, bound ++ listParameters parts)
  | bound, [] => by rw [bindList, renderList, listParameters, List.append_nil]
  | bound, part :: parts => by
    rw [bindList, bind_eq bound part]
    dsimp only
    rw [bindList_eq (bound ++ part.parameters) parts, renderList, listParameters, List.length_append,
      List.append_assoc]

end

end

end Expr

namespace Table

variable (table : Table) (condition : Condition)

theorem bind_eq : table.bind condition =
    (condition.render table.dialect (Column.text table.dialect) 0, condition.parameters) :=
  Expr.bind_eq table.dialect (Column.text table.dialect) [] condition

theorem restriction_eq : table.restriction condition =
    if condition.isAlways then (none, [])
    else (some (condition.render table.dialect (Column.text table.dialect) 0), condition.parameters) := by
  rw [restriction, table.bind_eq]

end Table

end DataGrid.Sql
