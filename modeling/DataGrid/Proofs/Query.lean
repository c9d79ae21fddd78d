import DataGrid.Proofs.Filter.Simulation
import DataGrid.Query

/-!
# Queries without their log

Making a query logs what it leaves out, which has no part in the query itself. Requests with the same
range of rows and the same order and with related filter models make queries that differ in related
predicates only (`Query.create_related`).
-/

namespace DataGrid

open Backend (Simulation)

theorem Page.value_create (start stop : Option Int64) (sort : List Sort.Key) :
    (Page.create start stop sort).value = (Page.ofRange start stop sort).toOption := by
  rw [Page.create]
  cases Page.ofRange start stop sort <;> rfl

namespace Query

variable {γ π γ' π' : Type} {left : Backend γ π} {right : Backend γ' π'}

theorem value_create (backend : Backend γ π) (request : Request) :
    (Query.create backend request).value =
      ⟨(request.filterModel.compile backend).value, Sort.keys request.sortModel,
        (Page.ofRange request.startRow request.endRow (Sort.keys request.sortModel)).toOption⟩ := by
  rw [← Page.value_create]
  rfl

/-- Only the filter models of requests can make a difference between their queries that is not in the
range of rows or in the order. -/
theorem create_related {S : Simulation left right} (hS : Filter.KeepsPatterns S) {r r' : Request}
    (hstart : r.startRow = r'.startRow) (hend : r.endRow = r'.endRow)
    (hsort : r.sortModel = r'.sortModel) (hfilter : r.filterModel.Related S.value r'.filterModel)
    (hid : ∀ id ∈ r.filterModel.ids, S.Resolves id) :
    S.predicate (Query.create left r).value.predicate (Query.create right r').value.predicate ∧
      (Query.create left r).value.sort = (Query.create right r').value.sort ∧
      (Query.create left r).value.page = (Query.create right r').value.page := by
  rw [value_create, value_create, hstart, hend, hsort]
  exact ⟨Filter.Model.compile_related hS hfilter hid, rfl, rfl⟩

end Query

end DataGrid
