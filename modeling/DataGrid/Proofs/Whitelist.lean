import DataGrid.Proofs.Filter.Meaning
import DataGrid.Proofs.Query
import DataGrid.Proofs.Sql.MemoryAgreement
import DataGrid.Service

/-!
# Lists of columns

A list of columns says of each one whether rows may be filtered and sorted by it. Statements are made by
what the list says, but answers by rows look at its ids only. So the two agree on every request exactly
if nothing on the list is forbidden (`answersAlike_iff`); a column that is listed and may not be filtered
by still restricts the rows (`query_filters_by_forbidden`).
-/

namespace DataGrid

open Sql (Agreement.simulation Columns Rule SameCells Table)
open Memory (Known Row)

namespace Sql

/-- The term that an order in SQL has for a key on a column that may be sorted by. -/
def Table.IsOrderTerm (table : Table) (key : Sort.Key) (term : String) : Prop :=
  ∃ column, table.columns.resolve .sort key.column = .ok column ∧
    term = table.dialect.orderTerm (quote column.name) key.direction.isDescending true

namespace Table

variable {table : Table} {rules : Dictionary Rule} {purpose : Purpose} {id : String} {rule : Rule}

theorem resolve_of_find? (hcolumns : table.columns = .restricted rules) (h : rules.find? id = some rule)
    (hallows : rule.allows purpose = true) : table.columns.resolve purpose id = .ok rule.column := by
  rw [hcolumns, Columns.resolve]
  simp only [h, hallows, if_true]

theorem resolve_of_forbidden (hcolumns : table.columns = .restricted rules)
    (h : rules.find? id = some rule) (hallows : rule.allows purpose = false) :
    table.columns.resolve purpose id = .error (.notAllowed id purpose) := by
  rw [hcolumns, Columns.resolve]
  simp only [h, hallows]
  rfl

theorem resolve_of_unlisted (hcolumns : table.columns = .restricted rules) (h : rules.find? id = none) :
    table.columns.resolve purpose id = .error (.unknown id) := by
  rw [hcolumns, Columns.resolve]
  simp only [h]

/-- Rows can be asked for all listed columns, whatever these may be used for. -/
theorem has_ids (hcolumns : table.columns = .restricted rules) (id : String) :
    Known.has table.columns.ids? id = (rules.find? id).isSome := by
  rw [hcolumns]
  exact rules.contains_ids id

end Table

end Sql

/-- A statement and the rows answer the request alike: where a row is kept in the database under the
names of the columns, the statement gets it exactly if it is among the rows, and both have an order by
the same keys. -/
structure Settings.AnswersAlike (settings : Settings) (request : Request) : Prop where
  filter : ∀ stored row, SameCells settings.sqlTable request.filterModel.ids stored row →
    ((Query.create settings.sqlTable.backend request).value.predicate.eval stored = .yes ↔
      (Query.create (Memory.backend settings.columns.ids?) request).value.predicate row = true)
  order : List.Forall₂ settings.sqlTable.IsOrderTerm
    (Memory.knownKeys settings.columns.ids?
      (Query.create (Memory.backend settings.columns.ids?) request).value.sort).value
    (settings.sqlTable.orderTerms (Query.create settings.sqlTable.backend request).value.sort).value

/-- The filter model that asks for rows where the cell under this id is true. -/
def isTrueModel (id : String) : Filter.Model :=
  ⟨[(id, .single (.boolean (some .isTrue)) none)], List.pairwise_singleton ..⟩

section
variable {table : Table} {rules : Dictionary Rule} (hcolumns : table.columns = .restricted rules)
include hcolumns

/-- When all columns of the list may be filtered by, an id has a column in both or in neither. -/
theorem resolves_of_filterable (hflags : ∀ entry ∈ rules.entries, entry.2.filterable = true)
    {ids : List String} {stored row : Row} (hcells : SameCells table ids stored row) :
    ∀ id ∈ ids, (Agreement.simulation table table.columns.ids? stored row).Resolves id := by
  intro id hid kind
  have hhas := Table.has_ids hcolumns id
  cases hrule : rules.find? id with
  | none =>
    rw [hrule] at hhas
    have hsql : table.backend.column id kind = .error (.unknown id) := by
      simp only [Table.backend, Table.resolve_of_unlisted hcolumns hrule]
      rfl
    have hmemory : (Memory.backend table.columns.ids?).column id kind = .error (.unknown id) := by
      simp only [Memory.backend, hhas]
      rfl
    rw [hsql, hmemory]
    exact .error _ _
  | some rule =>
    rw [hrule] at hhas
    have hallows : rule.allows .filter = true := hflags _ (Dictionary.mem_of_find? hrule)
    have hresolve := Table.resolve_of_find? hcolumns hrule hallows
    obtain ⟨hsql, hmemory⟩ := Sql.Agreement.column_eq hhas hresolve kind
    rw [hsql, hmemory]
    exact .ok ⟨rfl, rfl, hcells id hid _ hresolve⟩

/-- When all columns of the list may be sorted by, both orders have the keys on listed columns. -/
theorem orderTerms_of_sortable (hflags : ∀ entry ∈ rules.entries, entry.2.sortable = true) :
    ∀ keys : List Sort.Key, List.Forall₂ table.IsOrderTerm
      (Memory.knownKeys table.columns.ids? keys).value (table.orderTerms keys).value
  | [] => .nil
  | key :: keys => by
    have ih := orderTerms_of_sortable hflags keys
    have hhas := Table.has_ids hcolumns key.column
    rw [Memory.knownKeys, Table.orderTerms]
    cases hrule : rules.find? key.column with
    | none =>
      rw [hrule] at hhas
      simp only [hhas, Table.resolve_of_unlisted hcolumns hrule]
      exact ih
    | some rule =>
      rw [hrule] at hhas
      have hallows : rule.allows .sort = true := hflags _ (Dictionary.mem_of_find? hrule)
      have hresolve := Table.resolve_of_find? hcolumns hrule hallows
      simp only [hhas, hresolve]
      exact .cons ⟨rule.column, hresolve, rfl⟩ ih

/-- A test of a listed column that may not be filtered by is left out of statements. -/
theorem compile_isTrueModel_of_forbidden {id : String} {rule : Rule} (hrule : rules.find? id = some rule)
    (hforbidden : rule.filterable = false) :
    ((isTrueModel id).compile table.backend).value = .always := by
  have hallows : rule.allows .filter = false := hforbidden
  have hcondition : Filter.Condition.compile table.backend id (.boolean (some .isTrue)) =
      .error (.column (.notAllowed id .filter)) := by
    simp only [Filter.Condition.compile, Filter.lookUp, Table.backend,
      Table.resolve_of_forbidden hcolumns hrule hallows]
    rfl
  have hentries : (Filter.compileEntries table.backend (isTrueModel id).entries).value = [] := by
    simp only [isTrueModel, Filter.compileEntries, Logged.value_bind, Filter.Node.value_compile_single,
      hcondition]
    rfl
  rw [Filter.Model.value_compile, hentries]
  rfl

/-- The same test restricts the rows: one without the cell is left out. -/
theorem compile_isTrueModel_of_listed {id : String} {rule : Rule} (hrule : rules.find? id = some rule) :
    ((isTrueModel id).compile (Memory.backend table.columns.ids?)).value [] = false := by
  have hhas : Known.has table.columns.ids? id = true := by
    rw [Table.has_ids hcolumns, hrule]
    rfl
  have hentries : (Filter.compileEntries (Memory.backend table.columns.ids?)
      (isTrueModel id).entries).value =
        [(Memory.backend table.columns.ids?).compare .equal ⟨id, .boolean⟩ (.bool true)] := by
    simp only [isTrueModel, Filter.compileEntries, Logged.value_bind, Filter.Node.value_compile_single,
      Filter.Condition.compile, Filter.lookUp_of_has hhas]
    rfl
  rw [Filter.Model.value_compile, hentries]
  rfl

/-- A key on a listed column that may not be sorted by counts for rows but not in statements. -/
theorem not_forall₂_of_forbidden {key : Sort.Key} {rule : Rule} (hrule : rules.find? key.column = some rule)
    (hforbidden : rule.sortable = false) :
    ¬ List.Forall₂ table.IsOrderTerm (Memory.knownKeys table.columns.ids? [key]).value
      (table.orderTerms [key]).value := by
  have hhas : Known.has table.columns.ids? key.column = true := by
    rw [Table.has_ids hcolumns, hrule]
    rfl
  have hallows : rule.allows .sort = false := hforbidden
  simp only [Memory.knownKeys, Table.orderTerms, hhas, Table.resolve_of_forbidden hcolumns hrule hallows]
  exact nofun

end

/-- Statements and rows answer all requests alike exactly if each column of the list may be both filtered
and sorted by. -/
theorem answersAlike_iff (dialect : Sql.Dialect) (table : Identifier) (rules : Dictionary Rule)
    (limits : Limits) :
    (∀ request, Settings.AnswersAlike ⟨dialect, table, .restricted rules, limits⟩ request) ↔
      ∀ entry ∈ rules.entries, entry.2.filterable = true ∧ entry.2.sortable = true := by
  let settings : Settings := ⟨dialect, table, .restricted rules, limits⟩
  have hcolumns : settings.sqlTable.columns = .restricted rules := rfl
  constructor
  · rintro h ⟨id, rule⟩ hentry
    have hrule : rules.find? id = some rule := Dictionary.find?_of_mem hentry
    refine ⟨Bool.not_eq_false _ ▸ fun hforbidden => ?_, Bool.not_eq_false _ ▸ fun hforbidden => ?_⟩
    · -- the statement gets the empty row, which has no cell to be true
      have hfilter := (h { filterModel := isTrueModel id }).filter [] [] fun _ _ _ _ => rfl
      have hsql := compile_isTrueModel_of_forbidden hcolumns hrule hforbidden
      have hmemory := compile_isTrueModel_of_listed hcolumns hrule
      rw [Query.value_create, Query.value_create] at hfilter
      dsimp only at hfilter
      rw [hsql] at hfilter
      exact absurd (hmemory.symm.trans (hfilter.1 Sql.Expr.eval_always)) Bool.false_ne_true
    · exact not_forall₂_of_forbidden hcolumns hrule hforbidden (h { sortModel := [⟨id, none⟩] }).order
  · intro hflags request
    have hfilterable : ∀ entry ∈ rules.entries, entry.2.filterable = true := fun e he => (hflags e he).1
    have hsortable : ∀ entry ∈ rules.entries, entry.2.sortable = true := fun e he => (hflags e he).2
    refine ⟨fun stored row hcells => ?_, orderTerms_of_sortable hcolumns hsortable _⟩
    have hresolves := resolves_of_filterable hcolumns hfilterable hcells
    rw [Query.value_create, Query.value_create]
    refine Filter.Model.compile_related ?_ (request.filterModel.related_refl fun _ => rfl) hresolves
    rintro s _ ⟨⟩
    exact ⟨rfl, rfl, rfl⟩

/-- The column may not be filtered by, so the statement gets all rows; yet of two rows one is left. -/
theorem query_filters_by_forbidden :
    let file : Settings.File :=
      { columns := some (Dictionary.ofList [("n", { filterable := some false })]) }
    let request := "\x7b\"filterModel\":\x7b\"n\":\x7b\"filterType\":\"text\",\"type\":\"equals\"," ++
      "\"filter\":\"b\"\x7d\x7d\x7d"
    let rows := "[\x7b\"n\":\"a\"\x7d,\x7b\"n\":\"b\"\x7d]"
    (Settings.resolve {} file).toOption.map (fun settings =>
      ((settings.compile request).value.toOption.map (·.compact),
        (settings.query request rows).value.toOption.map (·.compact))) =
      some (some ("\x7b\"dialect\":\"duckdb\",\"sql\":\"SELECT * FROM \\\"rows\\\"\",\"params\":[]\x7d"),
        some ("\x7b\"page\":null,\"rowCount\":1,\"rows\":[\x7b\"n\":\"b\"\x7d]\x7d")) := by
  decide +kernel

end DataGrid
