import DataGrid.Proofs.Query
import DataGrid.Proofs.Sql.Binding

/-!
# Values of filters stay out of the text

Requests that differ in the values of their filters only get statements with the same text and with
parameters of the same kinds. Two conditions have the same text when they are one tree but for such
values; no step that makes a condition smaller looks at a value.
-/

namespace DataGrid.Sql

/-- The values are of one kind. -/
def SameKind (v v' : Value) : Prop := v.kind = v'.kind

namespace Expr

variable {κ : Type}

/-- The conditions have one text, and parameters of the same kinds. -/
structure SameText (e e' : Expr κ) : Prop where
  render_eq : ∀ dialect columnText bound,
    e.render dialect columnText bound = e'.render dialect columnText bound
  parameters : List.Forall₂ SameKind e.parameters e'.parameters
  isAlways_eq : e.isAlways = e'.isAlways

/-- The placeholder of a value shows its kind at most. -/
theorem placeholder_eq {v v' : Value} (h : SameKind v v') (dialect : Dialect) (bound : Nat) :
    placeholder dialect bound v = placeholder dialect bound v' := by
  cases v <;> cases v' <;> first | rfl | cases h

section
variable {parts parts' : List (Expr κ)}

theorem forall₂_listParameters (h : List.Forall₂ SameText parts parts') :
    List.Forall₂ SameKind (listParameters parts) (listParameters parts') := by
  induction h with
  | nil => exact .nil
  | cons h _ ih =>
    rw [listParameters, listParameters]
    exact List.rel_append h.parameters ih

theorem renderList_eq (h : List.Forall₂ SameText parts parts') (dialect : Dialect)
    (columnText : κ → String) : ∀ bound,
      renderList dialect columnText bound parts = renderList dialect columnText bound parts' := by
  induction h with
  | nil => exact fun _ => rfl
  | cons h _ ih =>
    intro bound
    rw [renderList, renderList, h.render_eq, h.parameters.length_eq, ih]

end

namespace SameText

theorem always : SameText (.always : Expr κ) .always := ⟨fun _ _ _ => rfl, .nil, rfl⟩

theorem compare (column : κ) (comparison : Comparison) {v v' : Value} (h : SameKind v v') :
    SameText (.compare column comparison v) (.compare column comparison v') where
  render_eq dialect columnText bound := by rw [render, render, placeholder_eq h]
  parameters := .cons h .nil
  isAlways_eq := rfl

theorem like (column : κ) (pattern pattern' : String) (negated : Bool) :
    SameText (.like column pattern negated) (.like column pattern' negated) where
  render_eq _ _ _ := rfl
  parameters := .cons rfl .nil
  isAlways_eq := rfl

theorem null (column : κ) (negated : Bool) : SameText (.null column negated) (.null column negated) :=
  ⟨fun _ _ _ => rfl, .nil, rfl⟩

variable {parts parts' : List (Expr κ)}

theorem all (h : List.Forall₂ SameText parts parts') : SameText (.all parts) (.all parts') where
  render_eq dialect columnText bound := by rw [render, render, renderList_eq h]
  parameters := forall₂_listParameters h
  isAlways_eq := rfl

theorem any (h : List.Forall₂ SameText parts parts') : SameText (.any parts) (.any parts') where
  render_eq dialect columnText bound := by rw [render, render, renderList_eq h]
  parameters := forall₂_listParameters h
  isAlways_eq := rfl

theorem forall₂_filter (h : List.Forall₂ SameText parts parts') :
    List.Forall₂ SameText (parts.filter fun part => !part.isAlways)
      (parts'.filter fun part => !part.isAlways) :=
  List.rel_filter (fun _ _ h => by simp only [h.isAlways_eq]) h

theorem any_isAlways_eq (h : List.Forall₂ SameText parts parts') :
    parts.any isAlways = parts'.any isAlways := by
  induction h with
  | nil => rfl
  | cons h _ ih => rw [List.any_cons, List.any_cons, h.isAlways_eq, ih]

/-- The same parts are left out of both conjunctions. -/
theorem conj (h : List.Forall₂ SameText parts parts') :
    SameText (Expr.conj parts) (Expr.conj parts') := by
  have hkept := forall₂_filter h
  unfold Expr.conj
  -- as many parts are kept on both sides, so both conjunctions take the same of the three cases
  generalize (parts.filter fun part => !part.isAlways) = kept at hkept
  generalize (parts'.filter fun part => !part.isAlways) = kept' at hkept
  match hkept with
  | .nil => exact always
  | .cons h .nil => exact h
  | .cons h (.cons h' hs) => exact all (.cons h (.cons h' hs))

theorem disj (h : List.Forall₂ SameText parts parts') :
    SameText (Expr.disj parts) (Expr.disj parts') := by
  unfold Expr.disj
  rw [any_isAlways_eq h]
  split
  · exact always
  · exact any h

end SameText

end Expr

/-- The conditions of a table keep values of the same kinds out of their text. -/
def Table.sameText (table : Table) : Backend.Simulation table.backend table.backend where
  column _ column column' := column = column'
  value := SameKind
  pattern _ _ := True
  predicate := Expr.SameText
  value_refl _ := rfl
  compare := by
    rintro comparison kind column _ v v' rfl _ hv
    exact .compare column comparison hv
  like := by
    rintro negated kind column _ p p' rfl _ _
    exact .like column p p' negated
  null := by
    rintro negated kind column _ rfl
    exact .null column negated
  all := .conj
  any := .disj
  always := .always

/-- Statements with one order and one page differ in their parameters at most. -/
theorem Table.statement_sameText (table : Table) {q q' : Query Condition}
    (h : Expr.SameText q.predicate q'.predicate) (hpage : q.page = q'.page) (order : Option String) :
    (table.statement q order).sql = (table.statement q' order).sql ∧
      List.Forall₂ SameKind (table.statement q order).parameters
        (table.statement q' order).parameters := by
  have hrestriction : (table.restriction q.predicate).1 = (table.restriction q'.predicate).1 ∧
      List.Forall₂ SameKind (table.restriction q.predicate).2 (table.restriction q'.predicate).2 := by
    rw [Table.restriction_eq, Table.restriction_eq]
    rw [h.isAlways_eq]
    split
    · exact ⟨rfl, .nil⟩
    · exact ⟨congrArg some (h.render_eq ..), h.parameters⟩
  refine ⟨?_, hrestriction.2⟩
  unfold Table.statement
  rw [hpage]
  exact congrArg (_ ++ Table.clause " WHERE " · ++ _ ++ _) hrestriction.1

/-- Two requests for the same rows in the same order, with filters of the same shape, get statements
with the same text and with parameters of the same kinds: the values of filters are in the parameters
only. Filters have the same shape when they differ in values only, and a date that cannot be read stands
where the other has one that cannot be read. -/
theorem select_sameText (table : Table) {r r' : Request} (hstart : r.startRow = r'.startRow)
    (hend : r.endRow = r'.endRow) (hsort : r.sortModel = r'.sortModel)
    (hfilter : r.filterModel.Related SameKind r'.filterModel) :
    (Query.create table.backend r >>= table.select).value.sql =
        (Query.create table.backend r' >>= table.select).value.sql ∧
      List.Forall₂ SameKind (Query.create table.backend r >>= table.select).value.parameters
        (Query.create table.backend r' >>= table.select).value.parameters := by
  obtain ⟨hpredicate, hkeys, hpage⟩ := Query.create_related (S := table.sameText)
    (fun _ _ _ => ⟨trivial, trivial, trivial⟩) hstart hend hsort hfilter
    (fun _ _ _ => .refl (fun _ => rfl) _)
  have h := table.statement_sameText hpredicate hpage
    (table.orderBy (Query.create table.backend r).value.sort).value
  rw [Logged.value_bind, Logged.value_bind]
  unfold Table.select
  rw [← hkeys]
  exact h

/-- One value would be a pattern for everything, if it were not escaped; dates are read or not. -/
theorem select_sameText_ranges :
    let table : Table := ⟨.postgres, "items", .permissive⟩
    let filters (text date date' : String) : Filter.Model := ⟨[("a", .group (some .or)
      [.single (.text (some .contains) (some text)) none,
        .single (.date (some .inRange) (some date) (some date')) none]
      (.text none none))], List.pairwise_singleton ..⟩
    let r : Request := { filterModel := filters "%" "2024-01-01 00:00:00" "tomorrow" }
    let r' : Request := { filterModel := filters "' OR 1=1" "1999-12-31 23:59:59" "" }
    (Query.create table.backend r >>= table.select).value.sql =
        (Query.create table.backend r' >>= table.select).value.sql ∧
      List.Forall₂ SameKind (Query.create table.backend r >>= table.select).value.parameters
        (Query.create table.backend r' >>= table.select).value.parameters := by
  intro table filters r r'
  refine select_sameText table rfl rfl rfl (.cons ⟨rfl, .group _ _ _ (.cons ?_ (.cons ?_ .nil))⟩ .nil)
  · exact .single _ (.text _ (.some rfl))
  · exact .single _ (.date _ (.some (.ok rfl)) (.some (.error _ _)))

end DataGrid.Sql
