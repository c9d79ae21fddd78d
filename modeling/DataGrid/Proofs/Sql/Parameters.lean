import DataGrid.Proofs.Filter.Numbers
import DataGrid.Proofs.Sql.Placeholders

/-!
# Placeholders and parameters

A condition binds the values of its comparisons and patterns in their order, after those that are bound
already, and its text has one placeholder for each of them. So the answer to a request has as many
parameters as its statement has placeholders, in the same order (`sites_eq_parameters`); none of them is
`null`, since the numbers of filters are finite.
-/

namespace DataGrid.Sql

/-! ### The values of a condition -/

namespace Expr

variable {κ : Type}

mutual

/-- The parts of a condition that are no junctions, from left to right. -/
def leaves : Expr κ → List (Expr κ)
  | all parts => listLeaves parts
  | any parts => listLeaves parts
  | always => [always]
  | compare column comparison value => [compare column comparison value]
  | like column pattern negated => [like column pattern negated]
  | null column negated => [null column negated]

def listLeaves : List (Expr κ) → List (Expr κ)
  | [] => []
  | part :: parts => part.leaves ++ listLeaves parts

end

/-- What a leaf compares its column with. -/
def leafValue? : Expr κ → Option Value
  | compare _ _ value => some value
  | like _ pattern _ => some (.text pattern)
  | _ => none

mutual

theorem parameters_eq_leaves : ∀ e : Expr κ, e.parameters = e.leaves.filterMap leafValue?
  | always | compare .. | like .. | null .. => by
    rw [parameters, leaves]
    rfl
  | all parts | any parts => by
    rw [parameters, leaves]
    exact listParameters_eq_leaves parts

theorem listParameters_eq_leaves :
    ∀ parts : List (Expr κ), listParameters parts = (listLeaves parts).filterMap leafValue?
  | [] => by
    rw [listParameters, listLeaves]
    rfl
  | part :: parts => by
    rw [listParameters, listLeaves, List.filterMap_append, part.parameters_eq_leaves,
      listParameters_eq_leaves parts]

end

theorem forall_mem_listParameters {P : Value → Prop} : ∀ {parts : List (Expr κ)},
    (∀ part ∈ parts, ∀ value ∈ part.parameters, P value) → ∀ value ∈ listParameters parts, P value
  | [], _ => by
    rw [listParameters]
    exact nofun
  | part :: parts, h => by
    rw [List.forall_mem_cons] at h
    rw [listParameters, List.forall_mem_append]
    exact ⟨h.1, forall_mem_listParameters h.2⟩

end Expr

/-! ### Statements -/

/-- The text of a condition after values that are bound already has a placeholder for each value that it
binds itself. -/
theorem Expr.sites_bind (dialect : Dialect) (bound : List Value) (e : Condition) :
    (bind dialect (Column.text dialect) bound e).2 = bound ++ e.leaves.filterMap leafValue? ∧
      dialect.sites [] (bind dialect (Column.text dialect) bound e).1.toList =
        dialect.sitesOf bound.length (e.leaves.filterMap leafValue?) := by
  rw [bind_eq, ← e.parameters_eq_leaves]
  exact ⟨rfl, (shows_render dialect bound.length e).sites_eq⟩

namespace Table

variable (table : Table)

theorem ends_clause {keyword : String} (h : ∀ rest, Ends (keyword.toList ++ rest)) (body : Option String) :
    ∀ rest, Ends rest → Ends ((clause keyword body).toList ++ rest) := by
  intro rest hrest
  cases body with
  | none => exact hrest
  | some text =>
    rw [clause, String.toList_append, List.append_assoc]
    exact h _

/-- The clause of a condition has the placeholders of the condition, if there is one. -/
theorem shows_restriction (condition : Condition) :
    Shows table.dialect (clause " WHERE " (table.restriction condition).1)
      (table.dialect.sitesOf 0 (table.restriction condition).2) := by
  rw [restriction_eq]
  split
  · exact .of_silent (by decide)
  · exact Shows.silent_append (by decide) (Expr.shows_render table.dialect 0 condition)

/-- The parameters of a statement stand behind its placeholders. -/
theorem sites_statement (hname : Silent (quote table.name)) (query : Query Condition)
    (order : Option String) (horder : ∀ text ∈ order, Wordy text) :
    table.dialect.sites [] (table.statement query order).sql.toList =
      table.dialect.sitesOf 0 (table.statement query order).parameters := by
  have hfrom : Silent ("SELECT * FROM " ++ quote table.name) :=
    (show Silent "SELECT * FROM " by decide).append hname
  have hwhere := Shows.silent_append hfrom (table.shows_restriction query.predicate)
  have hby := hwhere.append_silent (Wordy.clause (show Wordy " ORDER BY " by decide) horder).silent
    (ends_clause (ends_append_cons rfl (by decide)) order)
  have hpage : ∀ text ∈ query.page.map fun page => limitOffset page.size.toNat page.offset.toNat,
      Wordy text := by
    intro text htext
    obtain ⟨page, -, rfl⟩ := Option.map_eq_some_iff.1 htext
    exact wordy_limitOffset page.size.toNat page.offset.toNat
  exact (hby.append_silent (Wordy.clause (show Wordy " " by decide) hpage).silent
    (ends_clause (ends_append_cons rfl (by decide)) _)).sites_eq

/-! ### No parameter is `null` -/

/-- No value of the condition is written as `null`. -/
def Written (condition : Condition) : Prop := ∀ value ∈ condition.parameters, value.toJson ≠ .null

theorem written_conj {parts : List Condition} (h : ∀ part ∈ parts, Written part) :
    Written (Expr.conj parts) :=
  Expr.conj_of_forall nofun (fun _ => Expr.forall_mem_listParameters) h

theorem written_disj {parts : List Condition} (h : ∀ part ∈ parts, Written part) :
    Written (Expr.disj parts) :=
  Expr.disj_of_forall nofun (fun _ => Expr.forall_mem_listParameters) h

theorem keptByJoins_written : Filter.KeptByJoins table.backend Written where
  all _ := written_conj
  any _ := written_disj
  always := nofun

section
variable {column : Column} {value : Value} {p : Condition}

theorem written_compare (column : Column) (h : value.toJson ≠ .null) (comparison : Comparison) :
    Written (table.backend.compare comparison column value) :=
  List.forall_mem_singleton.2 h

theorem written_like (negated : Bool) (pattern : String) :
    Written (table.backend.like negated column pattern) :=
  List.forall_mem_singleton.2 nofun

theorem written_textTest {text : String} {test : Filter.TextTest}
    (h : test.compile table.backend column text = some p) : Written p := by
  have htext : (Value.text text).toJson ≠ .null := nofun
  cases test with
  | equals | notEqual =>
    cases h
    exact table.written_compare column htext _
  | contains | notContains | startsWith | endsWith =>
    cases h
    exact table.written_like _ _
  | blank | notBlank =>
    cases h
    exact nofun
  | unknown => cases h

/-- A range has its two values, unless it has no upper end. -/
theorem written_scalarTest {upper : Except Filter.Error (Option Value)} (hvalue : value.toJson ≠ .null)
    (hupper : ∀ last, upper = .ok (some last) → last.toJson ≠ .null) {test : Filter.ScalarTest}
    (h : test.compile table.backend column value upper = .ok (some p)) : Written p := by
  cases test with
  | inRange =>
    have hlower := table.written_compare column hvalue .greaterOrEqual
    match upper, hupper, h with
    | .ok none, _, h =>
      cases h
      have halways : Written table.backend.always := nofun
      exact written_conj (List.forall_mem_cons.2 ⟨hlower, List.forall_mem_singleton.2 halways⟩)
    | .ok (some last), hupper, h =>
      cases h
      have hlast := table.written_compare column (hupper last rfl) .lessOrEqual
      exact written_conj (List.forall_mem_cons.2 ⟨hlower, List.forall_mem_singleton.2 hlast⟩)
  | blank | notBlank =>
    cases h
    exact nofun
  | unknown => cases h
  | equals | notEqual | lessThan | lessThanOrEqual | greaterThan | greaterThanOrEqual =>
    cases h
    exact table.written_compare column hvalue _

theorem toJson_ne_null_of_dateValue {text : String} (h : Filter.dateValue text = .ok value) :
    value.toJson ≠ .null := by
  unfold Filter.dateValue at h
  split at h
  · cases h
    exact nofun
  · cases h

theorem toJson_ne_null_of_mapM_dateValue {text : Option String}
    (h : text.mapM Filter.dateValue = .ok (some value)) : value.toJson ≠ .null := by
  cases text with
  | none => cases h
  | some text =>
    obtain ⟨value', hvalue, h⟩ := Except.exists_of_map_eq_ok h
    cases h
    exact toJson_ne_null_of_dateValue hvalue

theorem written_condition {id : String} {c : Filter.Condition} (hc : c.IsFinite) :
    c.Gives table.backend id Written := by
  intro p h
  cases c with
  | text test value | object test value =>
    cases value with
    | none => cases h
    | some value =>
      obtain ⟨column, -, h⟩ := Except.exists_of_bind_eq_ok h
      obtain ⟨test, -, h⟩ := Option.bind_eq_some_iff.1 (Except.ok.inj h)
      exact table.written_textTest h
  | number test value upper =>
    cases value with
    | none => cases h
    | some value =>
      obtain ⟨column, -, h⟩ := Except.exists_of_bind_eq_ok h
      have hfinite : ∀ x : Binary64, (∃ f, x = .finite f) → (Value.number x).toJson ≠ .null := by
        rintro _ ⟨f, rfl⟩
        exact nofun
      cases test with
      | none => cases h
      | some test =>
        refine table.written_scalarTest (hfinite value (hc.1 value rfl)) (fun last hlast => ?_) h
        obtain ⟨x, hx, rfl⟩ := Option.map_eq_some_iff.1 (Except.ok.inj hlast)
        exact hfinite x (hc.2 x hx)
  | date test value upper =>
    cases value with
    | none => cases h
    | some value =>
      obtain ⟨column, -, h⟩ := Except.exists_of_bind_eq_ok h
      obtain ⟨date, hdate, h⟩ := Except.exists_of_bind_eq_ok h
      cases test with
      | none => cases h
      | some test =>
        exact table.written_scalarTest (toJson_ne_null_of_dateValue hdate)
          (fun last hlast => toJson_ne_null_of_mapM_dateValue hlast) h
  | boolean test =>
    obtain ⟨column, -, h⟩ := Except.exists_of_bind_eq_ok h
    cases h
    have hbool : (Value.bool (test = some .isTrue)).toJson ≠ .null := nofun
    exact table.written_compare column hbool .equal

end

theorem forall_parameters_statement {query : Query Condition} (h : Written query.predicate)
    (order : Option String) : ∀ value ∈ (table.statement query order).parameters, value.toJson ≠ .null := by
  unfold statement
  rw [restriction_eq]
  dsimp only
  split
  · exact nofun
  · exact h

theorem written_compile {limits : Limits} {text : String} {request : Request}
    (h : Request.parse limits text = .ok request) :
    Written (request.filterModel.compile table.backend).value := by
  refine Filter.Model.compile_of_conditions table.keptByJoins_written fun entry hentry => ?_
  exact (Request.finite_of_parse h entry hentry).imp fun c hc => table.written_condition hc

end Table

/-- The placeholders of a text correspond to the values that are bound for it, one to one and in their
order. In the text of a condition they are those of its comparisons and patterns, after any values that
are bound already, which stay as they are. In the answer to an accepted request they are the parameters,
of which none is `null`. -/
theorem sites_eq_parameters :
    (∀ (dialect : Dialect) (bound : List Value) (e : Condition),
      (Expr.bind dialect (Column.text dialect) bound e).2 =
          bound ++ e.leaves.filterMap Expr.leafValue? ∧
        dialect.sites [] (Expr.bind dialect (Column.text dialect) bound e).1.toList =
          ((e.leaves.filterMap Expr.leafValue?).zipIdx bound.length).map fun (value, i) =>
            ⟨dialect.placeholder (i + 1), value.kind = .dateTime⟩) ∧
    (∀ (settings : Settings) (text : String) (request : Request),
      Request.parse settings.limits text = .ok request →
        ∃ (sql : String) (values : List Value),
          (settings.compile text).value = .ok (.object [("dialect", .text settings.dialect.name),
            ("sql", .text sql), ("params", .array (values.map (·.toJson)))]) ∧
          settings.dialect.sites [] sql.toList =
            (values.zipIdx.map fun (value, i) =>
              ⟨settings.dialect.placeholder (i + 1), value.kind = .dateTime⟩) ∧
          ∀ value ∈ values, value.toJson ≠ .null) := by
  refine ⟨fun dialect bound e => Expr.sites_bind dialect bound e, fun settings text request hrequest => ?_⟩
  let table := settings.sqlTable
  refine ⟨_, (settings.statement request).value.parameters, value_compile hrequest, ?_, ?_⟩
  · rw [← Table.sql_eq_outline]
    exact table.sites_statement (wordy_quote settings.table).silent _ _ (table.wordy_orderBy _)
  · exact table.forall_parameters_statement (table.written_compile hrequest) _

/-- A number and a date on PostgreSQL, where the number is written like an integer of 64 bits. -/
theorem sites_eq_parameters_numbered :
    let settings : Settings := ⟨.postgres, ⟨"items", by decide⟩, .permissive, {}⟩
    let text := "\x7b\"filterModel\":\x7b" ++
      "\"n\":\x7b\"filterType\":\"number\",\"type\":\"equals\",\"filter\":18446744073709551615\x7d," ++
      "\"d\":\x7b\"filterType\":\"date\",\"type\":\"lessThan\"," ++
      "\"dateFrom\":\"2024-02-29 00:00:00\"\x7d\x7d\x7d"
    ∃ request, Request.parse settings.limits text = .ok request ∧
      ∃ (sql : String) (values : List Value),
        (settings.compile text).value = .ok (.object [("dialect", .text settings.dialect.name),
          ("sql", .text sql), ("params", .array (values.map (·.toJson)))]) ∧
        settings.dialect.sites [] sql.toList =
          (values.zipIdx.map fun (value, i) =>
            ⟨settings.dialect.placeholder (i + 1), value.kind = .dateTime⟩) ∧
        ∀ value ∈ values, value.toJson ≠ .null := by
  intro settings text
  have haccepted : (Request.parse settings.limits text).toOption.isSome = true := by decide +kernel
  cases hrequest : Request.parse settings.limits text with
  | error error =>
    rw [hrequest] at haccepted
    cases haccepted
  | ok request => exact ⟨request, rfl, sites_eq_parameters.2 settings text request hrequest⟩

end DataGrid.Sql
