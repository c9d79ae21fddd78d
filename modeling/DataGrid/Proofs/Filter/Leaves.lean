import DataGrid.Proofs.Filter.Numbers
import DataGrid.Proofs.Filter.Search

/-!
# The comparisons of a filter model

The predicate of a filter model is joined from comparisons, searches and tests for null. What each of
them compares or searches for comes from one condition of the model, on the column that the condition
stands for (`Model.compile_of_leaves`).
-/

namespace DataGrid.Filter

mutual

/-- The conditions of a node; the own condition of a group is not one of them. -/
def Node.conditions : Node → List Condition
  | .single condition _ => [condition]
  | .group _ nodes _ => listConditions nodes

def listConditions : List Node → List Condition
  | [] => []
  | node :: nodes => node.conditions ++ listConditions nodes

end

mutual

theorem Node.every_of_conditions {P : Condition → Prop} :
    ∀ {node : Node}, (∀ c ∈ node.conditions, P c) → node.Every P
  | .single c _, h => h c (List.mem_singleton_self c)
  | .group _ _ _, h => every_of_listConditions h

theorem every_of_listConditions {P : Condition → Prop} :
    ∀ {nodes : List Node}, (∀ c ∈ listConditions nodes, P c) → EveryNode P nodes
  | [], _ => trivial
  | _ :: _, h => by
    obtain ⟨hnode, hnodes⟩ := List.forall_mem_append.1 h
    exact ⟨Node.every_of_conditions hnode, every_of_listConditions hnodes⟩

end

namespace Condition

/-- The condition searches the texts of its column for the value. -/
def Searches (search : Search) (value : String) (c : Condition) : Prop :=
  c = .text (some search.test) (some value) ∨ c = .object (some search.test) (some value)

/-- The condition has the value to compare its column with. -/
inductive Compares : Condition → Value → Prop
  | text (test : Option TextTest) (s : String) : Compares (.text test (some s)) (.text s)
  | object (test : Option TextTest) (s : String) : Compares (.object test (some s)) (.text s)
  | number (test : Option ScalarTest) (x : Binary64) (upper : Option Binary64) :
    Compares (.number test (some x) upper) (.number x)
  | upperNumber (test : Option ScalarTest) (value : Option Binary64) (x : Binary64) :
    Compares (.number test value (some x)) (.number x)
  | boolean (test : Option BooleanTest) (b : Bool) : Compares (.boolean test) (.bool b)
  | date (test : Option ScalarTest) {s : String} {d : DateTime} (upper : Option String)
    (h : DateTime.ofGrid s = .ok d) : Compares (.date test (some s) upper) (.dateTime d)
  | upperDate (test : Option ScalarTest) (value : Option String) {s : String} {d : DateTime}
    (h : DateTime.ofGrid s = .ok d) : Compares (.date test value (some s)) (.dateTime d)

end Condition

section
variable {γ π : Type} {backend : Backend γ π} {Q : π → Prop} {id : String} {kind : ColumnKind} {column : γ}
  {p : π}

theorem column_of_lookUp (h : lookUp backend id kind = .ok column) :
    backend.column id kind = .ok column := by
  unfold lookUp at h
  cases hcolumn : backend.column id kind with
  | error error =>
    rw [hcolumn] at h
    cases h
  | ok column' =>
    rw [hcolumn] at h
    cases h
    rfl

theorem exists_of_dateValue {s : String} {value : Value} (h : dateValue s = .ok value) :
    ∃ d, DateTime.ofGrid s = .ok d ∧ value = .dateTime d := by
  unfold dateValue at h
  cases hd : DateTime.ofGrid s with
  | error fault =>
    rw [hd] at h
    cases h
  | ok d =>
    rw [hd] at h
    cases h
    exact ⟨d, rfl, rfl⟩

/-- What a property has to hold of to hold of the predicate of a condition. -/
structure Condition.HoldsOfLeaves (backend : Backend γ π) (Q : π → Prop) (id : String) (c : Condition) :
    Prop where
  compare : ∀ {kind column}, backend.column id kind = .ok column → ∀ {value}, c.Compares value →
    ∀ comparison, Q (backend.compare comparison column value)
  search : ∀ {kind column}, backend.column id kind = .ok column → ∀ search {value},
    c.Searches search value → ∀ p, search.test.compile backend column value = some p → Q p
  null : ∀ {kind column}, backend.column id kind = .ok column → ∀ negated, Q (backend.null negated column)

variable {c : Condition}

theorem TextTest.compile_of_leaves (hc : c.HoldsOfLeaves backend Q id)
    (hcolumn : backend.column id kind = .ok column) {test : TextTest} {s : String}
    (htest : c = .text (some test) (some s) ∨ c = .object (some test) (some s))
    (h : test.compile backend column s = some p) : Q p := by
  have hvalue : c.Compares (.text s) := by
    rcases htest with rfl | rfl
    · exact .text _ _
    · exact .object _ _
  cases test with
  | equals | notEqual =>
    cases h
    exact hc.compare hcolumn hvalue _
  | contains => exact hc.search hcolumn .contains htest p h
  | notContains => exact hc.search hcolumn .notContains htest p h
  | startsWith => exact hc.search hcolumn .startsWith htest p h
  | endsWith => exact hc.search hcolumn .endsWith htest p h
  | blank | notBlank =>
    cases h
    exact hc.null hcolumn _
  | unknown => cases h

/-- A range is joined from its two ends, or from its lower one and what is always true. -/
theorem ScalarTest.compile_of_leaves (hQ : KeptByJoins backend Q) (hc : c.HoldsOfLeaves backend Q id)
    (hcolumn : backend.column id kind = .ok column) {value : Value} (hvalue : c.Compares value)
    {upper : Except Error (Option Value)} (hupper : ∀ last, upper = .ok (some last) → c.Compares last)
    {test : ScalarTest} (h : test.compile backend column value upper = .ok (some p)) : Q p := by
  cases test with
  | inRange =>
    have hlower := hc.compare hcolumn hvalue .greaterOrEqual
    obtain ⟨last, hlast, h⟩ := Except.exists_of_bind_eq_ok h
    cases last with
    | none =>
      cases h
      exact hQ.all _ (List.forall_mem_cons.2 ⟨hlower, List.forall_mem_singleton.2 hQ.always⟩)
    | some last =>
      cases h
      have hend := hc.compare hcolumn (hupper last hlast) .lessOrEqual
      exact hQ.all _ (List.forall_mem_cons.2 ⟨hlower, List.forall_mem_singleton.2 hend⟩)
  | blank | notBlank =>
    cases h
    exact hc.null hcolumn _
  | unknown => cases h
  | equals | notEqual | lessThan | lessThanOrEqual | greaterThan | greaterThanOrEqual =>
    cases h
    exact hc.compare hcolumn hvalue _

theorem Condition.compile_of_leaves (hQ : KeptByJoins backend Q) (hc : c.HoldsOfLeaves backend Q id) :
    c.Gives backend id Q := by
  intro p h
  cases c with
  | text test value | object test value =>
    cases value with
    | none => cases h
    | some value =>
      obtain ⟨column, hcolumn, h⟩ := Except.exists_of_bind_eq_ok h
      obtain ⟨test, rfl, hcompile⟩ := Option.bind_eq_some_iff.1 (Except.ok.inj h)
      exact TextTest.compile_of_leaves hc (column_of_lookUp hcolumn) (by simp) hcompile
  | number test value upper =>
    cases value with
    | none => cases h
    | some value =>
      obtain ⟨column, hcolumn, h⟩ := Except.exists_of_bind_eq_ok h
      cases test with
      | none => cases h
      | some test =>
        refine ScalarTest.compile_of_leaves hQ hc (column_of_lookUp hcolumn) (.number _ _ _) ?_ h
        intro last hlast
        obtain ⟨x, rfl, rfl⟩ := Option.map_eq_some_iff.1 (Except.ok.inj hlast)
        exact .upperNumber _ _ x
  | date test value upper =>
    cases value with
    | none => cases h
    | some value =>
      obtain ⟨column, hcolumn, h⟩ := Except.exists_of_bind_eq_ok h
      obtain ⟨date, hdate, h⟩ := Except.exists_of_bind_eq_ok h
      obtain ⟨d, hd, rfl⟩ := exists_of_dateValue hdate
      cases test with
      | none => cases h
      | some test =>
        refine ScalarTest.compile_of_leaves hQ hc (column_of_lookUp hcolumn) (.date _ _ hd) ?_ h
        intro last hlast
        cases upper with
        | none => cases hlast
        | some upper =>
          obtain ⟨value', hvalue', hlast⟩ := Except.exists_of_map_eq_ok hlast
          cases hlast
          obtain ⟨d', hd', rfl⟩ := exists_of_dateValue hvalue'
          exact .upperDate _ _ hd'
  | boolean test =>
    obtain ⟨column, hcolumn, h⟩ := Except.exists_of_bind_eq_ok h
    cases h
    exact hc.compare (column_of_lookUp hcolumn) (.boolean _ _) _

/-- A property that joining keeps holds of the predicate of a filter model when it holds of what each
condition of the model compares, searches and tests for null. -/
theorem Model.compile_of_leaves (hQ : KeptByJoins backend Q) {m : Model}
    (h : ∀ entry ∈ m.entries, ∀ c ∈ entry.2.conditions, c.HoldsOfLeaves backend Q entry.1) :
    Q (m.compile backend).value :=
  Model.compile_of_conditions hQ fun entry hentry =>
    Node.every_of_conditions fun c hc => Condition.compile_of_leaves hQ (h entry hentry c hc)

end

end DataGrid.Filter
