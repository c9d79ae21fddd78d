import DataGrid.Proofs.Sql.Statement

/-!
# No text from outside becomes SQL

The tokens of a statement are fixed words and signs, numbers, placeholders and names, and every name is
one that the settings give: the table's, or that of a column behind an id that may be used for the
clause that the name is in. The ids come from outside; they get into the text by way of
`Columns.resolve` only, whether they stand in filters or in the order.
-/

namespace DataGrid.Sql

/-- A fixed word or sign, a number, a placeholder, or a plain name of a sort. The text of the escape
character is the only one between single quotes. -/
def Token.Plain (names : String → Prop) : Token → Prop
  | .word _ | .stray _ => False
  | .literal s => s = "\\"
  | .name s => Identifier.isPlain s = true ∧ names s
  | _ => True

/-- The name of a column behind one of these ids; in a list of columns the id has an entry that allows
the purpose. -/
def Columns.Offers (columns : Columns) (purpose : Purpose) (ids : List String) (name : String) : Prop :=
  ∃ id ∈ ids, ∃ column, columns.resolve purpose id = .ok column ∧ column.name = name ∧
    ∀ rules, columns = .restricted rules →
      ∃ rule, rules.find? id = some rule ∧ rule.allows purpose = true ∧ rule.column = column

theorem Columns.offers_of_resolve {columns : Columns} {purpose : Purpose} {ids : List String}
    {id : String} {column : Identifier} (hid : id ∈ ids) (h : columns.resolve purpose id = .ok column) :
    columns.Offers purpose ids column.name := by
  refine ⟨id, hid, column, h, rfl, ?_⟩
  rintro rules rfl
  rw [Columns.resolve] at h
  cases hrule : rules.find? id with
  | none =>
    rw [hrule] at h
    cases h
  | some rule =>
    simp only [hrule] at h
    split at h
    · next hallows =>
      cases h
      exact ⟨rule, rfl, hallows, rfl⟩
    · cases h

section
variable {names : String → Prop}

theorem plain_intercalate {separator : Token} (hsep : separator.Plain names) :
    ∀ {tss : List (List Token)}, (∀ ts ∈ tss, ∀ t ∈ ts, t.Plain names) →
      ∀ t ∈ [separator].intercalate tss, t.Plain names
  | [], _ => nofun
  | [ts], h => by
    rw [List.intercalate_singleton]
    exact h ts (List.mem_singleton_self ts)
  | ts :: ts' :: tss, h => by
    rw [List.forall_mem_cons] at h
    rw [List.intercalate_cons_cons, List.forall_mem_append, List.forall_mem_append]
    exact ⟨⟨h.1, by simpa using hsep⟩, plain_intercalate hsep h.2⟩

/-! ### Conditions -/

theorem Column.plain_tokens (dialect : Dialect) {column : Column} (h : names column.name.name) :
    ∀ t ∈ column.tokens dialect, t.Plain names := by
  have hname : (Token.name column.name.name).Plain names := ⟨column.name.plain, h⟩
  unfold Column.tokens
  split
  · cases dialect <;> simp [Dialect.castTokens, hname] <;> simp [Token.Plain]
  · simp [hname]

namespace Expr

theorem plain_placeholderTokens (dialect : Dialect) (bound : Nat) (value : Value) :
    ∀ t ∈ placeholderTokens dialect bound value, t.Plain names := by
  cases value with
  | dateTime => cases dialect <;> simp [placeholderTokens, Dialect.timestampTokens, Token.Plain]
  | text | number | bool => simp [placeholderTokens, Token.Plain]

theorem plain_junctionTokens {separator : Token} {empty : List Token} {tss : List (List Token)}
    (hsep : separator.Plain names) (hempty : ∀ t ∈ empty, t.Plain names)
    (h : ∀ ts ∈ tss, ∀ t ∈ ts, t.Plain names) :
    ∀ t ∈ junctionTokens separator empty tss, t.Plain names := by
  match tss with
  | [] => exact hempty
  | [ts] => exact h ts (List.mem_singleton_self ts)
  | ts :: ts' :: tss =>
    rw [junctionTokens, List.forall_mem_append, List.forall_mem_append]
    exact ⟨⟨by simp [Token.Plain], plain_intercalate hsep h⟩, by simp [Token.Plain]⟩
    all_goals simp

/-- All columns of a condition have a property. -/
inductive Over {κ : Type} (P : κ → Prop) : Expr κ → Prop
  | always : Over P .always
  | compare {column : κ} (comparison : Comparison) (value : Value) (h : P column) :
    Over P (.compare column comparison value)
  | like {column : κ} (pattern : String) (negated : Bool) (h : P column) :
    Over P (.like column pattern negated)
  | null {column : κ} (negated : Bool) (h : P column) : Over P (.null column negated)
  | all {parts : List (Expr κ)} (h : ∀ part ∈ parts, Over P part) : Over P (.all parts)
  | any {parts : List (Expr κ)} (h : ∀ part ∈ parts, Over P part) : Over P (.any parts)

namespace Over
variable {κ : Type} {P : κ → Prop} {parts : List (Expr κ)}

theorem conj (h : ∀ part ∈ parts, part.Over P) : (Expr.conj parts).Over P :=
  conj_of_forall always (fun _ => all) h

theorem disj (h : ∀ part ∈ parts, part.Over P) : (Expr.disj parts).Over P :=
  disj_of_forall always (fun _ => any) h

end Over

theorem plain_tokensList {dialect : Dialect} : ∀ {parts : List Condition},
    (∀ part ∈ parts, ∀ bound, ∀ t ∈ part.tokens dialect bound, t.Plain names) →
      ∀ bound, ∀ ts ∈ tokensList dialect bound parts, ∀ t ∈ ts, t.Plain names
  | [], _, _ => nofun
  | part :: parts, h, bound => by
    rw [List.forall_mem_cons] at h
    rw [tokensList, List.forall_mem_cons]
    exact ⟨h.1 bound, plain_tokensList h.2 _⟩

/-- The names in a condition are those of its columns. -/
theorem plain_tokens (dialect : Dialect) {e : Condition}
    (h : e.Over fun column => names column.name.name) :
    ∀ bound, ∀ t ∈ e.tokens dialect bound, t.Plain names := by
  induction h with
  | always =>
    intro bound
    simp [tokens, Token.Plain]
  | compare comparison value h =>
    intro bound
    rw [tokens, List.forall_mem_append, List.forall_mem_append]
    exact ⟨⟨Column.plain_tokens dialect h, by simp [Token.Plain]⟩,
      plain_placeholderTokens dialect bound value⟩
  | like pattern negated h =>
    intro bound
    rw [tokens, List.forall_mem_append, List.forall_mem_append, List.forall_mem_append]
    refine ⟨⟨⟨Column.plain_tokens dialect h, ?_⟩, plain_placeholderTokens dialect bound _⟩, ?_⟩
    · cases negated <;> simp [Token.Plain]
    · simp [Token.Plain]
  | null negated h =>
    intro bound
    rw [tokens, List.forall_mem_append]
    exact ⟨Column.plain_tokens dialect h, by cases negated <;> simp [Token.Plain]⟩
  | all h ih =>
    intro bound
    rw [tokens]
    exact plain_junctionTokens trivial (by simp [Token.Plain]) (plain_tokensList ih bound)
  | any h ih =>
    intro bound
    rw [tokens]
    exact plain_junctionTokens trivial (by simp [Token.Plain]) (plain_tokensList ih bound)

end Expr

/-! ### Orders -/

theorem Dialect.plain_orderTokens (dialect : Dialect) {column : Identifier} (h : names column.name)
    (descending nullsLast : Bool) :
    ∀ t ∈ dialect.orderTokens column.name descending nullsLast, t.Plain names := by
  have hname : Identifier.isPlain column.name = true ∧ names column.name := ⟨column.plain, h⟩
  cases dialect with
  | duckdb | postgres => simp [orderTokens, hname, Token.Plain]
  | sqlite => cases nullsLast <;> simp [orderTokens, hname, Token.Plain]

theorem Table.plain_orderBy (table : Table) {keys : List Sort.Key}
    (h : ∀ key ∈ keys, ∀ column,
      table.columns.resolve .sort key.column = .ok column → names column.name) :
    ∀ text ∈ (table.orderBy keys).value,
      ∃ ts, (∀ m, ReadsApart m text ts m) ∧ ∀ t ∈ ts, t.Plain names := by
  intro text htext
  have hcomma : Token.comma.Plain names := trivial
  refine ⟨_, table.reads_orderBy keys text htext, plain_intercalate hcomma fun ts hts => ?_⟩
  obtain ⟨c, hc, rfl⟩ := List.mem_map.1 hts
  obtain ⟨key, hkey, hcolumn⟩ := List.mem_filterMap.1 hc
  have hresolve := (table.sortColumn?_eq_some_iff.1 hcolumn).1
  exact table.dialect.plain_orderTokens (h key hkey c.1 hresolve) c.2 true

end

/-! ### Statements -/

/-- The columns of a condition have the property, when those of the table's backend have it. -/
def Table.over (table : Table) (P : Column → Prop) : Backend.Invariant table.backend where
  column := P
  predicate condition := condition.Over P
  compare comparison _ value h := .compare comparison value h
  like negated _ pattern h := .like pattern negated h
  null negated _ h := .null negated h
  all := .conj
  any := .disj
  always := .always

/-- The columns of the condition of a filter model are behind the model's ids. -/
theorem Table.over_compile (table : Table) (m : Filter.Model) :
    (m.compile table.backend).value.Over fun column =>
      table.columns.Offers .filter m.ids column.name.name := by
  refine m.compile_invariant (table.over _) fun id hid kind column hcolumn => ?_
  cases hname : table.columns.resolve .filter id with
  | error error =>
    simp only [Table.backend, hname] at hcolumn
    cases hcolumn
  | ok name =>
    simp only [Table.backend, hname] at hcolumn
    cases hcolumn
    exact Columns.offers_of_resolve hid hname

/-- The condition of a statement is read by itself, and names columns behind ids of filters. -/
theorem Table.plain_condition (table : Table) (request : Request) :
    ∀ body ∈ (table.outline request).condition, (∃ m, ReadsApart 0 body (scan 0 body.toList) m) ∧
      ∀ t ∈ scan 0 body.toList, t.Plain (table.columns.Offers .filter request.filterModel.ids) := by
  intro body hbody
  have hover := table.over_compile request.filterModel
  rw [Table.outline, Query.value_create, Table.restriction_eq] at hbody
  dsimp only at hbody
  split at hbody
  · cases hbody
  · cases hbody
    have hreads := Expr.reads_render table.dialect 0 (request.filterModel.compile table.backend).value
    rw [Dialect.marks_zero] at hreads
    exact ⟨⟨_, hreads.scan_eq.symm ▸ hreads⟩,
      hreads.scan_eq.symm ▸ Expr.plain_tokens table.dialect hover 0⟩

/-- The order of a statement is read by itself, and names columns behind ids of sort keys. -/
theorem Table.plain_order (table : Table) (request : Request) :
    ∀ body ∈ (table.outline request).order, (∀ m, ReadsApart m body (scan 0 body.toList) m) ∧
      ∀ t ∈ scan 0 body.toList,
        t.Plain (table.columns.Offers .sort (request.sortModel.map (·.column))) := by
  intro body hbody
  rw [Table.outline, Query.value_create] at hbody
  have hkeys : ∀ key ∈ Sort.keys request.sortModel, ∀ column,
      table.columns.resolve .sort key.column = .ok column →
        table.columns.Offers .sort (request.sortModel.map (·.column)) column.name := by
    intro key hkey column hcolumn
    obtain ⟨entry, hentry, rfl⟩ := List.mem_map.1 hkey
    exact Columns.offers_of_resolve (List.mem_map.2 ⟨entry, hentry, rfl⟩) hcolumn
  obtain ⟨ts, hreads, hplain⟩ := table.plain_orderBy hkeys body hbody
  rw [(hreads 0).scan_eq]
  exact ⟨hreads, hplain⟩

theorem name_of_ofString? {name : String} {identifier : Identifier}
    (h : Identifier.ofString? name = some identifier) : identifier.name = name := by
  unfold Identifier.ofString? at h
  split at h
  · cases h
    rfl
  · cases h

/-- The table is the first that is set, else the default one. -/
theorem table_of_resolve {options : Settings.Options} {file : Settings.File} {settings : Settings}
    (h : Settings.resolve options file = .ok settings) :
    settings.table.name = (options.table <|> file.sql.bind (·.table)).getD Settings.defaultTable := by
  have htable : (file.sql.getD {}).table = file.sql.bind (·.table) := by cases file.sql <;> rfl
  rw [← htable]
  unfold Settings.resolve at h
  dsimp only at h
  split at h
  · cases h
  · next table htable =>
    cases hcolumns : Settings.columnsOf file.columns with
    | error failure =>
      rw [hcolumns] at h
      cases h
    | ok columns =>
      cases hlimits : Settings.limitsOf (file.limits.getD {}) with
      | error failure =>
        rw [hcolumns, hlimits] at h
        cases h
      | ok limits =>
        rw [hcolumns, hlimits] at h
        cases h
        exact name_of_ofString? htable

/-- Whatever a request says, the statement that answers it is made of fixed words and signs, numbers,
placeholders and plain names. The first name is that of the table that is set; the names in the condition
and in the order are those of columns behind ids of the request that may be used there. -/
theorem tokens_compile {options : Settings.Options} {file : Settings.File} {settings : Settings}
    {text : String} {request : Request} (hsettings : Settings.resolve options file = .ok settings)
    (hrequest : Request.parse settings.limits text = .ok request) :
    ∃ (o : Outline) (parameters : List Json),
      (settings.compile text).value = .ok (.object [("dialect", .text settings.dialect.name),
        ("sql", .text o.text), ("params", .array parameters)]) ∧
      scan 0 o.text.toList = o.tokens ∧
      o.table = (options.table <|> file.sql.bind (·.table)).getD Settings.defaultTable ∧
      Identifier.isPlain o.table = true ∧
      (∀ body ∈ o.condition, ∀ t ∈ scan 0 body.toList,
        t.Plain (settings.columns.Offers .filter request.filterModel.ids)) ∧
      (∀ body ∈ o.order, ∀ t ∈ scan 0 body.toList,
        t.Plain (settings.columns.Offers .sort (request.sortModel.map (·.column)))) := by
  have hcondition := settings.sqlTable.plain_condition request
  have horder := settings.sqlTable.plain_order request
  refine ⟨settings.sqlTable.outline request, _, value_compile hrequest, ?_,
    table_of_resolve hsettings, settings.table.plain,
    fun body hbody => (hcondition body hbody).2, fun body hbody => (horder body hbody).2⟩
  exact Outline.scan_text _ (Identifier.quote_not_mem settings.table)
    (fun body hbody => (hcondition body hbody).1) fun body hbody => (horder body hbody).1

/-- One of the ids of filters is no id of a column and would end the text of a name. -/
theorem tokens_compile_listed :
    let options : Settings.Options := { dialect := some .sqlite, table := some "items" }
    let file : Settings.File :=
      { columns := some (Dictionary.ofList [("n", { name := some "amount" })]) }
    let text := "\x7b\"filterModel\":\x7b\"n\":\x7b\"filterType\":\"boolean\"\x7d," ++
      "\"n\\\" OR 1=1\":\x7b\"filterType\":\"boolean\"\x7d\x7d," ++
      "\"sortModel\":[\x7b\"colId\":\"n\"\x7d]\x7d"
    ∃ settings request, Settings.resolve options file = .ok settings ∧
      Request.parse settings.limits text = .ok request ∧
      ∃ (o : Outline) (parameters : List Json),
        (settings.compile text).value = .ok (.object [("dialect", .text settings.dialect.name),
          ("sql", .text o.text), ("params", .array parameters)]) ∧
        scan 0 o.text.toList = o.tokens ∧
        o.table = (options.table <|> file.sql.bind (·.table)).getD Settings.defaultTable ∧
        Identifier.isPlain o.table = true ∧
        (∀ body ∈ o.condition, ∀ t ∈ scan 0 body.toList,
          t.Plain (settings.columns.Offers .filter request.filterModel.ids)) ∧
        (∀ body ∈ o.order, ∀ t ∈ scan 0 body.toList,
          t.Plain (settings.columns.Offers .sort (request.sortModel.map (·.column)))) := by
  intro options file text
  have haccepted : (match Settings.resolve options file with
      | .ok settings => (Request.parse settings.limits text).toOption.isSome
      | .error _ => false) = true := by decide +kernel
  cases hsettings : Settings.resolve options file with
  | error failure =>
    rw [hsettings] at haccepted
    cases haccepted
  | ok settings =>
    cases hrequest : Request.parse settings.limits text with
    | error error =>
      simp only [hsettings, hrequest] at haccepted
      cases haccepted
    | ok request => exact ⟨settings, request, rfl, hrequest, tokens_compile hsettings hrequest⟩

end DataGrid.Sql
