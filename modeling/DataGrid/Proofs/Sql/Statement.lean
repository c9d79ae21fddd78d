import DataGrid.Proofs.Query
import DataGrid.Proofs.Sql.Rendering
import DataGrid.Service

/-!
# The tokens of statements

A statement selects from the table, and may have a condition, an order and a page. Its text is cut into
the tokens of these parts (`Outline.scan_text`): none of them runs on into the next one.
-/

namespace DataGrid.Sql

/-! ### Orders and pages -/

namespace Dialect

/-- The tokens of a key of an order. -/
def orderTokens (column : String) (descending nullsLast : Bool) (dialect : Dialect) : List Token :=
  let direction := .keyword (if descending then .DESC else .ASC)
  match dialect with
  | sqlite =>
    [.keyword .CASE, .keyword .WHEN, .name column, .keyword .IS, .keyword .NULL, .keyword .THEN]
      ++ (if nullsLast then [.number 1, .keyword .ELSE, .number 0]
        else [.number 0, .keyword .ELSE, .number 1])
      ++ [.keyword .END, .comma, .name column, direction]
  | duckdb | postgres =>
    [.name column, direction, .keyword .NULLS, .keyword (if nullsLast then .LAST else .FIRST)]

theorem reads_orderTerm (dialect : Dialect) (column : Identifier) (descending nullsLast : Bool)
    (m : Nat) : ReadsApart m (dialect.orderTerm (quote column.name) descending nullsLast)
      (dialect.orderTokens column.name descending nullsLast) m := by
  have hname : ReadsApart m (quote column.name) [.name column.name] m :=
    reads_quote (Identifier.quote_not_mem column)
  have hspace : ReadsOpen m " " [] m := fun _ _ => rfl
  have hdirection : ReadsApart m (if descending then "DESC" else "ASC")
      [.keyword (if descending then .DESC else .ASC)] m := by
    cases descending with
    | false => exact reads_phrase [] (fun _ => rfl) (extend_word "ASC".toList)
    | true => exact reads_phrase [] (fun _ => rfl) (extend_word "DESC".toList)
  have hkey := (hname.thenApart hspace (beginsApart_cons rfl (by decide))).then hdirection
  have hnulls : ReadsApart m (if nullsLast then " NULLS LAST" else " NULLS FIRST")
      [.keyword .NULLS, .keyword (if nullsLast then .LAST else .FIRST)] m := by
    cases nullsLast with
    | false => exact reads_phrase [.keyword .NULLS] (fun _ => rfl) (extend_word "FIRST".toList)
    | true => exact reads_phrase [.keyword .NULLS] (fun _ => rfl) (extend_word "LAST".toList)
  cases dialect with
  | duckdb | postgres =>
    exact hkey.thenApart hnulls (by cases nullsLast <;> exact beginsApart_cons rfl (by decide))
  | sqlite =>
    have hcase : ReadsOpen m "CASE WHEN " [.keyword .CASE, .keyword .WHEN] m := fun _ _ => rfl
    have hnull : ReadsOpen m " IS NULL THEN " [.keyword .IS, .keyword .NULL, .keyword .THEN] m :=
      fun _ _ => rfl
    have hplace : ReadsApart m (if nullsLast then "1 ELSE 0" else "0 ELSE 1")
        (if nullsLast then [.number 1, .keyword .ELSE, .number 0]
          else [.number 0, .keyword .ELSE, .number 1]) m := by
      cases nullsLast with
      | false => exact reads_phrase [.number 0, .keyword .ELSE] (fun _ => rfl) (extend_number 1)
      | true => exact reads_phrase [.number 1, .keyword .ELSE] (fun _ => rfl) (extend_number 0)
    have hend : ReadsOpen m " END, " [.keyword .END, .comma] m := fun _ _ => rfl
    have hfirst := ((hcase.then hname).thenApart hnull (beginsApart_cons rfl (by decide))).then hplace
    have h := (((hfirst.thenApart hend (beginsApart_cons rfl (by decide))).then hname).thenApart hspace
      (beginsApart_cons rfl (by decide))).then hdirection
    cases nullsLast <;> exact h

end Dialect

namespace Table

/-- The column behind a key that may be sorted by, with the direction. -/
def sortColumn? (table : Table) (key : Sort.Key) : Option (Identifier × Bool) :=
  (table.columns.resolve .sort key.column).toOption.map (·, key.direction.isDescending)

def orderTokens (table : Table) (keys : List Sort.Key) : List Token :=
  [.comma].intercalate ((keys.filterMap table.sortColumn?).map fun c =>
    table.dialect.orderTokens c.1.name c.2 true)

variable (table : Table)

theorem sortColumn?_eq_some_iff {key : Sort.Key} {c : Identifier × Bool} :
    table.sortColumn? key = some c ↔
      table.columns.resolve .sort key.column = .ok c.1 ∧ key.direction.isDescending = c.2 := by
  rw [sortColumn?]
  cases table.columns.resolve .sort key.column with
  | error error => simp [Except.toOption]
  | ok column => simp [Except.toOption, Prod.ext_iff]

theorem value_orderTerms : ∀ keys : List Sort.Key, (table.orderTerms keys).value =
    (keys.filterMap table.sortColumn?).map fun c => table.dialect.orderTerm (quote c.1.name) c.2 true
  | [] => rfl
  | key :: keys => by
    have ih := value_orderTerms keys
    rw [orderTerms, List.filterMap_cons, sortColumn?]
    cases table.columns.resolve .sort key.column with
    | error error => exact ih
    | ok column => exact congrArg _ ih

/-- The order of a statement is written from the columns behind its keys. -/
theorem value_orderBy (keys : List Sort.Key) : (table.orderBy keys).value =
    if (keys.filterMap table.sortColumn?).isEmpty then none
    else some (", ".intercalate ((keys.filterMap table.sortColumn?).map fun c =>
      table.dialect.orderTerm (quote c.1.name) c.2 true)) := by
  rw [orderBy, Logged.value_bind, value_orderTerms, List.isEmpty_map]
  split <;> rfl

theorem reads_orderBy (keys : List Sort.Key) :
    ∀ text ∈ (table.orderBy keys).value, ∀ m, ReadsApart m text (table.orderTokens keys) m := by
  intro text htext m
  have hsep : ∀ m, ReadsOpen m ", " [.comma] m := fun _ _ _ => rfl
  rw [value_orderBy] at htext
  split at htext
  · cases htext
  · next hne =>
    cases htext
    have hterms := ReadsEach.map (fun c : Identifier × Bool =>
      table.dialect.reads_orderTerm c.1 c.2 true m) (keys.filterMap table.sortColumn?)
    exact hterms.intercalate hsep (beginsApart_cons rfl (by decide)) (by simpa using hne)

end Table

theorem reads_limitOffset (m limit offset : Nat) : ReadsApart m (limitOffset limit offset)
    [.keyword .LIMIT, .number limit, .keyword .OFFSET, .number offset] m := by
  have hlimit : ReadsOpen m "LIMIT " [.keyword .LIMIT] m := fun _ _ => rfl
  have hoffset : ReadsOpen m " OFFSET " [.keyword .OFFSET] m := fun _ _ => rfl
  exact ((hlimit.then (reads_number limit)).thenApart hoffset
    (beginsApart_cons rfl (by decide))).then (reads_number offset)

/-! ### Statements -/

/-- The tokens of a clause, if it has a body. -/
def clauseTokens (keyword : List Token) : Option String → List Token
  | none => []
  | some body => keyword ++ scan 0 body.toList

theorem apart_clause {keyword : String} (h : BeginsApart keyword) (body : Option String) :
    ∀ rest, Apart rest → Apart ((Table.clause keyword body).toList ++ rest) := by
  intro rest hrest
  cases body with
  | none => exact hrest
  | some body =>
    rw [Table.clause, String.toList_append, List.append_assoc]
    exact h _

/-- A clause is read when its body is, whatever question marks stand before it. -/
theorem reads_clause {keyword : String} {ts : List Token} {body : Option String} {m : Nat}
    (hkeyword : ReadsOpen m keyword ts m)
    (hbody : ∀ text ∈ body, ∃ m', ReadsApart m text (scan 0 text.toList) m') :
    ∃ m', ReadsApart m (Table.clause keyword body) (clauseTokens ts body) m' := by
  cases body with
  | none => exact ⟨m, fun rest _ => rfl⟩
  | some text =>
    obtain ⟨m', htext⟩ := hbody text rfl
    exact ⟨m', hkeyword.then htext⟩

/-- What a statement is made of. -/
structure Outline where
  table : String
  condition : Option String
  order : Option String
  page : Option (Nat × Nat)

namespace Outline

def text (o : Outline) : String :=
  "SELECT * FROM " ++ quote o.table ++ Table.clause " WHERE " o.condition
    ++ Table.clause " ORDER BY " o.order ++ Table.clause " " (o.page.map fun p => limitOffset p.1 p.2)

def tokens (o : Outline) : List Token :=
  [.keyword .SELECT, .star, .keyword .FROM] ++ [.name o.table]
    ++ clauseTokens [.keyword .WHERE] o.condition ++ clauseTokens [.keyword .ORDER, .keyword .BY] o.order
    ++ (o.page.elim [] fun p => [.keyword .LIMIT, .number p.1, .keyword .OFFSET, .number p.2])

/-- A statement is cut into the tokens of its parts. -/
theorem scan_text (o : Outline) (htable : '\"' ∉ o.table.toList)
    (hcondition : ∀ text ∈ o.condition, ∃ m, ReadsApart 0 text (scan 0 text.toList) m)
    (horder : ∀ text ∈ o.order, ∀ m, ReadsApart m text (scan 0 text.toList) m) :
    scan 0 o.text.toList = o.tokens := by
  have hselect : ReadsOpen 0 "SELECT * FROM " [.keyword .SELECT, .star, .keyword .FROM] 0 :=
    fun _ _ => rfl
  have hfrom := hselect.then (reads_quote htable)
  have hwhere : ReadsOpen 0 " WHERE " [.keyword .WHERE] 0 := fun _ _ => rfl
  obtain ⟨m, hcondition⟩ := reads_clause hwhere hcondition
  have hby : ReadsOpen m " ORDER BY " [.keyword .ORDER, .keyword .BY] m := fun _ _ => rfl
  obtain ⟨m', horder⟩ := reads_clause hby fun text htext => ⟨m, horder text htext m⟩
  have hpage : ReadsApart m' (Table.clause " " (o.page.map fun p => limitOffset p.1 p.2))
      (o.page.elim [] fun p => [.keyword .LIMIT, .number p.1, .keyword .OFFSET, .number p.2]) m' := by
    cases o.page with
    | none => exact fun rest _ => rfl
    | some p =>
      have hspace : ReadsOpen m' " " [] m' := fun _ _ => rfl
      exact hspace.then (reads_limitOffset m' p.1 p.2)
  exact (((hfrom.append hcondition (apart_clause (beginsApart_cons rfl (by decide)) _)).append horder
    (apart_clause (beginsApart_cons rfl (by decide)) _)).append hpage
    (apart_clause (beginsApart_cons rfl (by decide)) _)).scan_eq

end Outline

/-- The parts of the statement of a request. -/
def Table.outline (table : Table) (request : Request) : Outline :=
  let query := (Query.create table.backend request).value
  ⟨table.name, (table.restriction query.predicate).1, (table.orderBy query.sort).value,
    query.page.map fun page => (page.size.toNat, page.offset.toNat)⟩

theorem Table.sql_eq_outline (table : Table) (request : Request) :
    (Query.create table.backend request >>= table.select).value.sql = (table.outline request).text := by
  unfold Outline.text Table.outline
  rw [Option.map_map]
  rfl

/-- The answer to a request that is accepted is the statement of its parts. -/
theorem value_compile {settings : Settings} {text : String} {request : Request}
    (hrequest : Request.parse settings.limits text = .ok request) :
    (settings.compile text).value = .ok (.object
      [("dialect", .text settings.dialect.name), ("sql", .text (settings.sqlTable.outline request).text),
        ("params", .array ((settings.statement request).value.parameters.map (·.toJson)))]) := by
  have hread : (Request.accept settings.limits text).value = .ok request := by
    rw [Request.accept, hrequest]
    dsimp only
    split <;> rfl
  have haccept : (settings.accept text).value = .ok request := by
    rw [Settings.accept, Logged.value_bind, hread]
    rfl
  rw [Settings.compile, Logged.value_bind, haccept, ← Table.sql_eq_outline]
  rfl

end DataGrid.Sql
