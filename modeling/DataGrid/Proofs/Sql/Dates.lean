import DataGrid.Proofs.DateTime.Form
import DataGrid.Proofs.Filter.Leaves
import DataGrid.Proofs.Sql.Parameters

/-!
# Dates in statements

A date in the parameters of a statement is that of a date filter, written anew. Filters may have years
outside of 0 to 9999, so the parameter has the fixed form of timestamps exactly if the year is one of
those (`dates_of_compile`), and there are requests with parameters that have not (`params_not_fixed`).
-/

namespace DataGrid.Sql

open DateTime (Fits IsFixed restForm)

namespace Table

variable (table : Table) (m : Filter.Model)

/-- The dates that the condition is compared with are those of date filters in the model. -/
def Dated (condition : Condition) : Prop :=
  ∀ value ∈ condition.parameters, ∀ d, value = .dateTime d →
    ∃ entry ∈ m.entries, ∃ c ∈ entry.2.conditions, c.family = .date ∧ c.Compares (.dateTime d)

variable {table m}

theorem keptByJoins_dated : Filter.KeptByJoins table.backend (Dated m) where
  all _ := Expr.conj_of_forall nofun fun _ => Expr.forall_mem_listParameters
  any _ := Expr.disj_of_forall nofun fun _ => Expr.forall_mem_listParameters
  always := nofun

theorem family_of_compares {c : Filter.Condition} {d : DateTime} (h : c.Compares (.dateTime d)) :
    c.family = .date := by
  cases h with
  | date => rfl
  | upperDate => rfl

theorem holdsOfLeaves_dated {entry : String × Filter.Node} (hentry : entry ∈ m.entries)
    {c : Filter.Condition} (hc : c ∈ entry.2.conditions) :
    c.HoldsOfLeaves table.backend (Dated m) entry.1 where
  compare _ value hvalue comparison := by
    refine List.forall_mem_singleton.2 ?_
    rintro d rfl
    exact ⟨entry, hentry, c, hc, family_of_compares hvalue, hvalue⟩
  search _ search value _ p h := by
    have hpattern {column : Column} {pattern : String} {negated : Bool} :
        Dated m (.like column pattern negated) := List.forall_mem_singleton.2 nofun
    cases search with
    | contains | notContains | startsWith | endsWith =>
      cases h
      exact hpattern
  null _ _ := nofun

theorem dated_statement {query : Query Condition} (h : Dated m query.predicate) (order : Option String) :
    ∀ value ∈ (table.statement query order).parameters, ∀ d, value = .dateTime d →
      ∃ entry ∈ m.entries, ∃ c ∈ entry.2.conditions, c.family = .date ∧ c.Compares (.dateTime d) := by
  unfold statement
  rw [restriction_eq]
  dsimp only
  split
  · exact nofun
  · exact h

end Table

end DataGrid.Sql
