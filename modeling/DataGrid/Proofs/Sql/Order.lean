import DataGrid.Proofs.Memory.Sorting
import DataGrid.Proofs.Sql.Statement

/-!
# The order of statements and the order in memory

The order of a statement is read from its text: terms between commas, each a column with a direction
or a test for null, and the first term that tells two rows apart decides. The text of each dialect
stands for the same order, that of the rows in memory; SQLite, where nulls are the smallest cells,
needs two terms for a key.
-/

namespace DataGrid.Sql

open Memory (Known Row compareBy compareCells? compareRows knownKeys)

/-- A term of an order as it is read. -/
inductive OrderTerm where
  /-- The cells of a column; nulls have a place if there is a word for it. -/
  | column (name : String) (descending : Bool) (nullsLast : Option Bool)
  /-- A number where the cell is null, another one where it is not. -/
  | nullTest (name : String) (null other : Nat)
deriving DecidableEq, Repr

namespace OrderTerm

/-- The order of two rows by a term. Where there is no word for the place of nulls, they are the
smallest cells: first when ascending, last when descending. -/
def compare (a b : Row) : OrderTerm → Ordering
  | column name descending nullsLast =>
    compareCells? descending (nullsLast.getD descending) (a.cell? name) (b.cell? name)
  | nullTest name null other =>
    Ord.compare (if (a.cell? name).isNone then null else other)
      (if (b.cell? name).isNone then null else other)

/-- The order of two rows by the first term that tells them apart. -/
def compareAll (a b : Row) : List OrderTerm → Ordering
  | [] => .eq
  | term :: terms => (term.compare a b).then (compareAll a b terms)

theorem compareAll_append {a b : Row} : ∀ {terms terms' : List OrderTerm},
    compareAll a b (terms ++ terms') = (compareAll a b terms).then (compareAll a b terms')
  | [], _ => rfl
  | term :: terms, terms' => by
    rw [List.cons_append, compareAll, compareAll_append, compareAll, Ordering.then_assoc]

/-! ### Reading from tokens -/

def direction? : Keyword → Option Bool
  | .ASC => some false
  | .DESC => some true
  | _ => none

def place? : Keyword → Option Bool
  | .FIRST => some false
  | .LAST => some true
  | _ => none

def ofTokens? : List Token → Option OrderTerm
  | [.name s, .keyword d] => do return column s (← direction? d) none
  | [.name s, .keyword d, .keyword .NULLS, .keyword p] => do
    return column s (← direction? d) (some (← place? p))
  | [.keyword .CASE, .keyword .WHEN, .name s, .keyword .IS, .keyword .NULL, .keyword .THEN, .number n,
      .keyword .ELSE, .number m, .keyword .END] => some (nullTest s n m)
  | _ => none

def tokens : OrderTerm → List Token
  | column s descending nullsLast =>
    [.name s, .keyword (if descending then .DESC else .ASC)] ++
      nullsLast.elim [] fun last => [.keyword .NULLS, .keyword (if last then .LAST else .FIRST)]
  | nullTest s n m =>
    [.keyword .CASE, .keyword .WHEN, .name s, .keyword .IS, .keyword .NULL, .keyword .THEN, .number n,
      .keyword .ELSE, .number m, .keyword .END]

theorem ofTokens?_tokens (term : OrderTerm) : ofTokens? term.tokens = some term := by
  cases term with
  | column s descending nullsLast => rcases nullsLast with _ | _ | _ <;> cases descending <;> rfl
  | nullTest s n m => rfl

theorem comma_not_mem_tokens (term : OrderTerm) : .comma ∉ term.tokens := by
  cases term with
  | column s descending nullsLast => cases nullsLast <;> simp [tokens]
  | nullTest s n m => simp [tokens]

/-- Reads the body of an order; without one there are no terms. -/
def readAll? : Option String → Option (List OrderTerm)
  | none => some []
  | some body => ((scan 0 body.toList).splitOn .comma).mapM ofTokens?

theorem mapM_ofTokens? : ∀ terms : List OrderTerm, (terms.map tokens).mapM ofTokens? = some terms
  | [] => rfl
  | term :: terms => by
    rw [List.map_cons, List.mapM_cons, ofTokens?_tokens, mapM_ofTokens? terms]
    rfl

theorem readAll?_of_scan {body : String} {terms : List OrderTerm} (hne : terms ≠ [])
    (h : scan 0 body.toList = [.comma].intercalate (terms.map tokens)) :
    readAll? (some body) = some terms := by
  have hcomma : ∀ ts ∈ terms.map tokens, .comma ∉ ts := by
    rintro ts hts
    obtain ⟨term, _, rfl⟩ := List.mem_map.1 hts
    exact comma_not_mem_tokens term
  have hsplit : ([Token.comma].intercalate (terms.map tokens)).splitOn .comma = terms.map tokens :=
    List.splitOn_intercalate Token.comma hcomma (by simpa using hne)
  rw [readAll?, h, hsplit, mapM_ofTokens?]

end OrderTerm

/-- In SQLite a key stands in the text as two terms. -/
example : OrderTerm.readAll? (some "CASE WHEN \"m\" IS NULL THEN 1 ELSE 0 END, \"m\" DESC") =
    some [.nullTest "m" 1 0, .column "m" true none] := by decide

/-! ### The terms of a key -/

namespace Dialect

def keyTerms (column : String) (descending nullsLast : Bool) : Dialect → List OrderTerm
  | sqlite =>
    [.nullTest column nullsLast.toNat (!nullsLast).toNat, .column column descending none]
  | duckdb | postgres => [.column column descending (some nullsLast)]

theorem keyTerms_ne_nil (dialect : Dialect) (column : String) (descending nullsLast : Bool) :
    dialect.keyTerms column descending nullsLast ≠ [] := by
  cases dialect <;> exact nofun

theorem orderTokens_eq (dialect : Dialect) (column : String) (descending nullsLast : Bool) :
    dialect.orderTokens column descending nullsLast =
      [.comma].intercalate ((dialect.keyTerms column descending nullsLast).map OrderTerm.tokens) := by
  cases dialect with
  | duckdb | postgres => rfl
  | sqlite => cases nullsLast <;> rfl

/-- Where one of two cells is null, a test for null decides before their column does; else it ties. -/
theorem compare_nullTest_then (column : String) (descending nullsLast default : Bool) (a b : Row) :
    ((OrderTerm.nullTest column nullsLast.toNat (!nullsLast).toNat).compare a b).then
        (compareCells? descending default (a.cell? column) (b.cell? column)) =
      compareCells? descending nullsLast (a.cell? column) (b.cell? column) := by
  rw [OrderTerm.compare]
  cases a.cell? column <;> cases b.cell? column <;> cases nullsLast <;> rfl

/-- The terms of a key compare its cells, with the nulls in their place. -/
theorem compareAll_keyTerms (dialect : Dialect) (column : String) (descending nullsLast : Bool)
    (a b : Row) : OrderTerm.compareAll a b (dialect.keyTerms column descending nullsLast) =
      compareCells? descending nullsLast (a.cell? column) (b.cell? column) := by
  cases dialect with
  | duckdb | postgres => exact Ordering.then_eq
  | sqlite =>
    rw [keyTerms, OrderTerm.compareAll, OrderTerm.compareAll, OrderTerm.compareAll, Ordering.then_eq]
    exact compare_nullTest_then column descending nullsLast descending a b

end Dialect

/-! ### The terms of an order -/

section
variable {α β : Type} {sep : List β}

theorem intercalate_append {ls : List (List β)} (hls : ls ≠ []) :
    ∀ {ks : List (List β)}, ks ≠ [] →
      sep.intercalate (ks ++ ls) = sep.intercalate ks ++ (sep ++ sep.intercalate ls)
  | [], h => absurd rfl h
  | [k], _ => by
    rw [List.singleton_append, List.intercalate_cons_of_ne_nil hls, List.intercalate_singleton,
      List.append_assoc]
  | k :: k' :: ks, _ => by
    have ih := intercalate_append hls (List.cons_ne_nil k' ks)
    rw [List.cons_append] at ih
    rw [List.cons_append, List.cons_append, List.intercalate_cons_cons, List.intercalate_cons_cons, ih]
    simp only [List.append_assoc]

/-- Lists of lists with separators within and between them have one separator between any two. -/
theorem intercalate_flatMap {f : α → List (List β)} (hf : ∀ a, f a ≠ []) : ∀ as : List α,
    sep.intercalate (as.flatMap f) = sep.intercalate (as.map fun a => sep.intercalate (f a))
  | [] => rfl
  | [a] => by rw [List.flatMap_singleton, List.map_singleton, List.intercalate_singleton]
  | a :: b :: as => by
    have hrest : (b :: as).flatMap f ≠ [] := by simp [hf]
    rw [List.flatMap_cons, intercalate_append hrest (hf a), intercalate_flatMap hf (b :: as),
      List.map_cons (a := a), List.intercalate_cons_of_ne_nil (by simp), List.append_assoc]

end

namespace Table

/-- The key is on a column that may be sorted by. -/
def sorts (table : Table) (key : Sort.Key) : Bool := (table.columns.resolve .sort key.column).isOk

/-- The terms of the keys on columns that may be sorted by. -/
def sortTerms (table : Table) (keys : List Sort.Key) : List OrderTerm :=
  (keys.filterMap table.sortColumn?).flatMap fun c => table.dialect.keyTerms c.1.name c.2 true

variable (table : Table)

theorem sortColumn?_isSome (key : Sort.Key) : (table.sortColumn? key).isSome = table.sorts key := by
  rw [sortColumn?, sorts]
  cases table.columns.resolve .sort key.column <;> rfl

/-- Keys on columns that may not be sorted by leave nothing in the text of an order. -/
theorem orderBy_filter_sorts (keys : List Sort.Key) :
    (table.orderBy (keys.filter table.sorts)).value = (table.orderBy keys).value := by
  have hkept (key : Sort.Key) :
      (if table.sorts key then table.sortColumn? key else none) = table.sortColumn? key := by
    rw [← sortColumn?_isSome]
    cases table.sortColumn? key <;> rfl
  rw [value_orderBy, value_orderBy, List.filterMap_filter]
  simp only [hkept]

theorem orderBy_eq_none_iff (keys : List Sort.Key) :
    (table.orderBy keys).value = none ↔ keys.filterMap table.sortColumn? = [] := by
  rw [value_orderBy]
  simp

theorem filterMap_sortColumn?_eq_nil_iff (keys : List Sort.Key) :
    keys.filterMap table.sortColumn? = [] ↔ keys.filter table.sorts = [] := by
  simp only [List.filterMap_eq_nil_iff, List.filter_eq_nil_iff, ← sortColumn?_isSome,
    Option.not_isSome_iff_eq_none]

theorem orderTokens_eq (keys : List Sort.Key) : table.orderTokens keys =
    [.comma].intercalate ((table.sortTerms keys).map OrderTerm.tokens) := by
  have hterms : ∀ c : Identifier × Bool,
      (table.dialect.keyTerms c.1.name c.2 true).map OrderTerm.tokens ≠ [] := fun c => by
    simpa using table.dialect.keyTerms_ne_nil c.1.name c.2 true
  simp only [orderTokens, Dialect.orderTokens_eq]
  rw [sortTerms, List.map_flatMap, intercalate_flatMap hterms]

theorem sortTerms_eq_nil_iff (keys : List Sort.Key) :
    table.sortTerms keys = [] ↔ (table.orderBy keys).value = none := by
  rw [orderBy_eq_none_iff, sortTerms, List.flatMap_eq_nil_iff, List.eq_nil_iff_forall_not_mem]
  simp only [Dialect.keyTerms_ne_nil, imp_false]

theorem readAll?_orderBy (keys : List Sort.Key) :
    OrderTerm.readAll? (table.orderBy keys).value = some (table.sortTerms keys) := by
  cases hbody : (table.orderBy keys).value with
  | none =>
    rw [(table.sortTerms_eq_nil_iff keys).2 hbody]
    rfl
  | some body =>
    have hne : table.sortTerms keys ≠ [] := fun hnil => by
      rw [(table.sortTerms_eq_nil_iff keys).1 hnil] at hbody
      cases hbody
    have hscan : scan 0 body.toList = table.orderTokens keys :=
      (table.reads_orderBy keys body hbody 0).scan_eq
    exact OrderTerm.readAll?_of_scan hne (hscan.trans (table.orderTokens_eq keys))

/-- The terms of the keys compare rows of the database as the keys compare those in memory which have
the same cells under the ids of the keys. -/
theorem compareAll_sortTerms {a b a' b' : Row} : ∀ {keys : List Sort.Key},
    (∀ key ∈ keys, ∃ column, table.columns.resolve .sort key.column = .ok column ∧
      a.cell? column.name = a'.cell? key.column ∧ b.cell? column.name = b'.cell? key.column) →
    OrderTerm.compareAll a b (table.sortTerms keys) = compareRows keys a' b'
  | [], _ => rfl
  | key :: keys, h => by
    rw [List.forall_mem_cons] at h
    obtain ⟨⟨column, hcolumn, ha, hb⟩, h⟩ := h
    have hkey : table.sortColumn? key = some (column, key.direction.isDescending) :=
      table.sortColumn?_eq_some_iff.2 ⟨hcolumn, rfl⟩
    have ih := compareAll_sortTerms h
    rw [sortTerms] at ih
    rw [sortTerms, List.filterMap_cons_some hkey, List.flatMap_cons, OrderTerm.compareAll_append, ih,
      Dialect.compareAll_keyTerms, ha, hb, compareRows, Memory.compareBy_eq]

end Table

/-- The text of an order stands for the order of rows in memory, when both backends sort by all of its
keys under their own names. A key that the table cannot sort by leaves no trace in the text, and
there is a text as long as one key is left. -/
theorem compareAll_orderBy (table : Table) (known : Known) (keys : List Sort.Key) :
    ((∀ key ∈ keys, known.has key.column = true ∧
        ∃ column, table.columns.resolve .sort key.column = .ok column ∧ column.name = key.column) →
      ∃ terms, OrderTerm.readAll? (table.orderBy keys).value = some terms ∧
        ∀ a b, OrderTerm.compareAll a b terms = compareRows (knownKeys known keys).value a b) ∧
    (table.orderBy keys).value = (table.orderBy (keys.filter table.sorts)).value ∧
    ((table.orderBy keys).value = none ↔ keys.filter table.sorts = []) := by
  refine ⟨fun hkeys => ⟨_, table.readAll?_orderBy keys, fun a b => ?_⟩,
    (table.orderBy_filter_sorts keys).symm,
    (table.orderBy_eq_none_iff keys).trans (table.filterMap_sortColumn?_eq_nil_iff keys)⟩
  have hknown : keys.filter (fun key => known.has key.column) = keys :=
    List.filter_eq_self.2 fun key hkey => (hkeys key hkey).1
  rw [Memory.value_knownKeys, hknown]
  refine table.compareAll_sortTerms fun key hkey => ?_
  obtain ⟨_, column, hcolumn, hname⟩ := hkeys key hkey
  exact ⟨column, hcolumn, by rw [hname], by rw [hname]⟩

/-- Two keys with four terms, and a name that cannot be sorted by since it is not plain. -/
theorem compareAll_orderBy_sqlite :
    let table : Table := ⟨.sqlite, "items", .permissive⟩
    let known : Known := some ["n", "m"]
    let keys : List Sort.Key := [⟨"m", .descending⟩, ⟨"n", .ascending⟩]
    let unsortable : Sort.Key := ⟨"m;", .ascending⟩
    (∃ terms, OrderTerm.readAll? (table.orderBy keys).value = some terms ∧
      ∀ a b, OrderTerm.compareAll a b terms = compareRows (knownKeys known keys).value a b) ∧
    (table.orderBy (unsortable :: keys)).value = (table.orderBy keys).value ∧
    (table.orderBy [unsortable]).value = none := by
  intro table known keys unsortable
  have hkeys : ∀ key ∈ keys, known.has key.column = true ∧
      ∃ column, table.columns.resolve .sort key.column = .ok column ∧ column.name = key.column := by
    intro key hkey
    have h : key = ⟨"m", .descending⟩ ∨ key = ⟨"n", .ascending⟩ := by simpa [keys] using hkey
    rcases h with rfl | rfl
    · exact ⟨rfl, ⟨"m", by decide⟩, rfl, rfl⟩
    · exact ⟨rfl, ⟨"n", by decide⟩, rfl, rfl⟩
  have hfilter : (unsortable :: keys).filter table.sorts = keys := by decide
  refine ⟨(compareAll_orderBy table known keys).1 hkeys, ?_,
    (compareAll_orderBy table known [unsortable]).2.2.2 (by decide)⟩
  rw [(compareAll_orderBy table known (unsortable :: keys)).2.1, hfilter]

end DataGrid.Sql
