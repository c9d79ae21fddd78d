import DataGrid.Column
import DataGrid.Dictionary
import DataGrid.Identifier

/-!
# The columns of a table

Ids of columns come from outside, so they are looked up before they get into SQL. Either every plain
identifier is its own column, or there is a list of ids with the columns behind them and what each
may be used for.
-/

namespace DataGrid.Sql

/-- The column behind an id. -/
structure Rule where
  column : Identifier
  filterable : Bool
  sortable : Bool

def Rule.allows (rule : Rule) : Purpose → Bool
  | .filter => rule.filterable
  | .sort => rule.sortable

inductive Columns where
  | permissive
  | restricted (rules : Dictionary Rule)

/-- An entry of a list of columns, before its name is known to be plain. -/
structure Entry where
  id : String
  name : String
  filterable : Bool := true
  sortable : Bool := true

namespace Columns

def rules : List Entry → Except ColumnError (List (String × Rule))
  | [] => .ok []
  | entry :: entries =>
    match Identifier.ofString? entry.name with
    | none => .error (.unknown entry.name)
    | some column => do
      return (entry.id, ⟨column, entry.filterable, entry.sortable⟩) :: (← rules entries)

/-- Allows only these ids. All their columns have to have plain names. -/
def restrict (entries : List Entry) : Except ColumnError Columns := do
  return .restricted (Dictionary.ofList (← rules entries))

def isRestricted : Columns → Bool
  | permissive => false
  | restricted _ => true

/-- The ids that are allowed, where not all are. -/
def ids? : Columns → Option (List String)
  | permissive => none
  | restricted rules => some rules.ids

/-- The column behind an id, for a purpose. -/
def resolve (purpose : Purpose) (id : String) : Columns → Except ColumnError Identifier
  | permissive =>
    match Identifier.ofString? id with
    | some column => .ok column
    | none => .error (.unknown id)
  | restricted rules =>
    match rules.find? id with
    | none => .error (.unknown id)
    | some rule => if rule.allows purpose then .ok rule.column else .error (.notAllowed id purpose)

end Columns

end DataGrid.Sql
