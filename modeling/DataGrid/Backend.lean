import DataGrid.Column
import DataGrid.Comparison
import DataGrid.Value

/-!
# Backends

What filters are compiled to: columns `γ` that are looked up by id, and predicates `π` that are put
together from comparisons. SQL texts and functions on rows are two backends.
-/

namespace DataGrid

structure Backend (γ π : Type) where
  /-- The column with an id, for a filter that looks at it in this way. -/
  column : String → ColumnKind → Except ColumnError γ
  compare : Comparison → γ → Value → π
  /-- The text matches a pattern, or has text and does not match it. -/
  like : (negated : Bool) → γ → String → π
  /-- The cell is null, or is not. -/
  null : (negated : Bool) → γ → π
  /-- All hold; of none that is true. -/
  all : List π → π
  /-- One holds at least; of none that is false. -/
  any : List π → π
  always : π

end DataGrid
