import DataGrid.Comparison
import DataGrid.Sql.Dialect
import DataGrid.Value

/-!
# SQL conditions

A condition is a tree of comparisons, and its text has a placeholder for each value. The values are
the parameters of the statement, in the order of their placeholders in the text.
-/

namespace DataGrid.Sql

/-- A condition on columns of type `κ`. -/
inductive Expr (κ : Type) where
  | always
  | compare (column : κ) (comparison : Comparison) (value : Value)
  | like (column : κ) (pattern : String) (negated : Bool)
  | null (column : κ) (negated : Bool)
  | all (parts : List (Expr κ))
  | any (parts : List (Expr κ))

namespace Expr

variable {κ : Type}

def isAlways : Expr κ → Bool
  | always => true
  | _ => false

/-- The conjunction without parts that are always true, as small as it can be. -/
def conj (parts : List (Expr κ)) : Expr κ :=
  match parts.filter fun part => !part.isAlways with
  | [] => always
  | [part] => part
  | parts => all parts

/-- The disjunction, unless a part is always true. -/
def disj (parts : List (Expr κ)) : Expr κ := if parts.any isAlways then always else any parts

section
variable {Q : Expr κ → Prop} {parts : List (Expr κ)}

/-- A conjunction is always true, or its only part, or one of several parts. -/
theorem conj_of_forall (halways : Q always) (hall : ∀ parts, (∀ part ∈ parts, Q part) → Q (all parts))
    (h : ∀ part ∈ parts, Q part) : Q (conj parts) := by
  have hkept : ∀ part ∈ parts.filter fun part => !part.isAlways, Q part := fun part hpart =>
    h part (List.mem_filter.1 hpart).1
  unfold conj
  split
  · exact halways
  · next part hfilter =>
    rw [hfilter] at hkept
    exact hkept part (List.mem_singleton_self part)
  · exact hall _ hkept

theorem disj_of_forall (halways : Q always) (hany : ∀ parts, (∀ part ∈ parts, Q part) → Q (any parts))
    (h : ∀ part ∈ parts, Q part) : Q (disj parts) := by
  unfold disj
  split
  · exact halways
  · exact hany _ h

end

/-- The placeholder of a value after `bound` others. -/
def placeholder (dialect : Dialect) (bound : Nat) (value : Value) : String :=
  let placeholder := dialect.placeholder (bound + 1)
  match value with
  | .dateTime _ => dialect.timestamp placeholder
  | _ => placeholder

/-- One more value behind those that are bound already, and its placeholder. -/
def bindValue (dialect : Dialect) (bound : List Value) (value : Value) : String × List Value :=
  (placeholder dialect bound.length value, bound ++ [value])

/-- Texts with a separator between them, in parentheses when there are several. -/
def junction (separator empty : String) : List String → String
  | [] => empty
  | [text] => text
  | texts => "(" ++ separator.intercalate texts ++ ")"

mutual

/-- The text of a condition after values that are bound already, and all values that are bound then. -/
def bind (dialect : Dialect) (columnText : κ → String) (bound : List Value) :
    Expr κ → String × List Value
  | always => ("1=1", bound)
  | compare column comparison value =>
    let (placeholder, bound) := bindValue dialect bound value
    (columnText column ++ " " ++ comparison.symbol ++ " " ++ placeholder, bound)
  | like column pattern negated =>
    let (placeholder, bound) := bindValue dialect bound (.text pattern)
    (columnText column ++ (if negated then " NOT LIKE " else " LIKE ") ++ placeholder
      ++ " ESCAPE '\\'", bound)
  | null column negated =>
    (columnText column ++ (if negated then " IS NOT NULL" else " IS NULL"), bound)
  | all parts =>
    let (texts, bound) := bindList dialect columnText bound parts
    (junction " AND " "1=1" texts, bound)
  | any parts =>
    let (texts, bound) := bindList dialect columnText bound parts
    (junction " OR " "1=0" texts, bound)

/-- The texts of conditions, each after the values of those before it. -/
def bindList (dialect : Dialect) (columnText : κ → String) (bound : List Value) :
    List (Expr κ) → List String × List Value
  | [] => ([], bound)
  | part :: parts =>
    let (text, bound) := part.bind dialect columnText bound
    let (texts, bound) := bindList dialect columnText bound parts
    (text :: texts, bound)

end

end Expr

end DataGrid.Sql
