import DataGrid.Memory
import DataGrid.Proofs.Filter.Simulation
import DataGrid.Proofs.Like

/-!
# What filters mean on rows in memory

A condition on a column asks something of the rows, or it asks nothing, or it cannot be asked because
there is no such column or because a date in it cannot be read. `Condition.outcome` says which, and
`Node.outcome` says what a group asks of the rows: what those of its nodes ask that ask something.
Compiled for rows in memory a filter model is true of a row just when all its columns' conditions hold
(`Model.compile_iff_holds`).
-/

namespace DataGrid

namespace Memory.Column

/-- The text of the cell of a row, unless the cell is null. -/
def text? (column : Column) (row : Row) : Option String := (column.cell? row).map Cell.text

/-- The order of the cell of a row and a value, if the cell is of the wanted kind and they have one. -/
def order? (column : Column) (value : Value) (row : Row) : Option Ordering :=
  column.value? row >>= fun cell => cell.compare? value

theorem value?_eq_text? {column : Column} (hkind : column.kind = .text ∨ column.kind = .coerced)
    (row : Row) : column.value? row = (column.text? row).map .text := by
  rw [value?, text?, Option.map_map]
  rcases hkind with hkind | hkind <;> rw [hkind] <;> cases column.cell? row <;> rfl

end Memory.Column

namespace Filter

open Memory (Known Row)

/-- What is asked of the rows. -/
inductive Outcome where
  /-- Nothing. -/
  | vacuous
  /-- What cannot be asked. -/
  | failing
  | condition (holds : Row → Prop)

/-- A condition, or nothing. -/
def Outcome.ofOption : Option (Row → Prop) → Outcome
  | none => .vacuous
  | some holds => .condition holds

def Outcome.condition? : Outcome → Option (Row → Prop)
  | .condition holds => some holds
  | .vacuous | .failing => none

/-- What a test of text asks of the text in a column. -/
def TextTest.condition? (column : Memory.Column) (value : String) : TextTest → Option (Row → Prop)
  | equals => some fun row => ∃ text ∈ column.text? row, text = value
  | notEqual => some fun row => ∃ text ∈ column.text? row, text ≠ value
  | contains => some fun row => ∃ text ∈ column.text? row, value.toList <:+: text.toList
  | notContains => some fun row => ∃ text ∈ column.text? row, ¬ value.toList <:+: text.toList
  | startsWith => some fun row => ∃ text ∈ column.text? row, value.toList <+: text.toList
  | endsWith => some fun row => ∃ text ∈ column.text? row, value.toList <:+ text.toList
  | blank => some fun row => column.cell? row = none
  | notBlank => some fun row => column.cell? row ≠ none
  | unknown => none

/-- What a test of numbers or dates asks of a column. A range without an upper value has no upper end. -/
def ScalarTest.condition? (column : Memory.Column) (value : Value) (upper : Option Value) :
    ScalarTest → Option (Row → Prop)
  | equals => some fun row => column.order? value row = some .eq
  | notEqual => some fun row => ∃ order ∈ column.order? value row, order = .lt ∨ order = .gt
  | lessThan => some fun row => column.order? value row = some .lt
  | lessThanOrEqual => some fun row => ∃ order ∈ column.order? value row, order = .lt ∨ order = .eq
  | greaterThan => some fun row => column.order? value row = some .gt
  | greaterThanOrEqual => some fun row => ∃ order ∈ column.order? value row, order = .gt ∨ order = .eq
  | blank => some fun row => column.cell? row = none
  | notBlank => some fun row => column.cell? row ≠ none
  | inRange => some fun row =>
    (∃ order ∈ column.order? value row, order = .gt ∨ order = .eq) ∧
      ∀ last ∈ upper, ∃ order ∈ column.order? last row, order = .lt ∨ order = .eq
  | unknown => none

/-- The upper value, where the test has a use for it. -/
def ScalarTest.usedUpper {α : Type} (test : Option ScalarTest) (upper : Option α) : Option α :=
  if test = some .inRange then upper else none

/-- What a condition on a column asks of the rows, where only these ids may be used. -/
def Condition.outcome (known : Known) (id : String) : Condition → Outcome
  | text _ none | number _ none _ | date _ none _ | object _ none => .vacuous
  | text test (some value) =>
    if known.has id then .ofOption (test.bind (TextTest.condition? ⟨id, .text⟩ value)) else .failing
  | object test (some value) =>
    if known.has id then .ofOption (test.bind (TextTest.condition? ⟨id, .coerced⟩ value)) else .failing
  | number test (some value) upper =>
    if known.has id then
      .ofOption (test.bind
        (ScalarTest.condition? ⟨id, .number⟩ (.number value) (upper.map .number)))
    else .failing
  | date test (some value) upper =>
    if known.has id then
      match DateTime.ofGrid value, (ScalarTest.usedUpper test upper).mapM DateTime.ofGrid with
      | .ok value, .ok upper =>
        .ofOption (test.bind
          (ScalarTest.condition? ⟨id, .dateTime⟩ (.dateTime value) (upper.map .dateTime)))
      | _, _ => .failing
    else .failing
  | boolean test =>
    if known.has id then
      .condition fun row =>
        (⟨id, .boolean⟩ : Memory.Column).value? row = some (.bool (test = some .isTrue))
    else .failing

mutual

/-- What a node on a column asks of the rows. -/
def Node.outcome (known : Known) (id : String) : Node → Outcome
  | .single condition _ => condition.outcome known id
  | .group (some .and) nodes _ => .condition fun row => ∀ holds ∈ conditions known id nodes, holds row
  | .group (some .or) nodes _ => .condition fun row => ∃ holds ∈ conditions known id nodes, holds row
  | .group (some .unknown) _ _ | .group none _ _ => .vacuous

/-- What those nodes ask that ask something. -/
def conditions (known : Known) (id : String) : List Node → List (Row → Prop)
  | [] => []
  | node :: nodes => (node.outcome known id).condition?.toList ++ conditions known id nodes

end

/-- The row is as the conditions of all columns ask. -/
def Model.Holds (m : Model) (known : Known) (row : Row) : Prop :=
  ∀ entry ∈ m.entries, ∀ holds, entry.2.outcome known entry.1 = .condition holds → holds row

/-! ### Compiled tests -/

/-- The predicate is true of the rows for which the condition holds. -/
def Decides (p : Row → Bool) (holds : Row → Prop) : Prop := ∀ row, p row = true ↔ holds row

/-- A compiled node gives what is asked: nothing, an error, or a predicate that decides the condition. -/
inductive Agrees : Except Error (Option (Row → Bool)) → Outcome → Prop
  | vacuous : Agrees (.ok none) .vacuous
  | failing (error : Error) : Agrees (.error error) .failing
  | condition {p : Row → Bool} {holds : Row → Prop} (h : Decides p holds) :
    Agrees (.ok (some p)) (.condition holds)

theorem Agrees.ofOption {p : Option (Row → Bool)} {holds : Option (Row → Prop)}
    (h : Option.Rel Decides p holds) : Agrees (.ok p) (.ofOption holds) := by
  cases h with
  | none => exact .vacuous
  | some h => exact .condition h

section
variable {known : Known} {column : Memory.Column}

/-- A comparison holds of a cell and a value that are in one of the orders it accepts. -/
theorem compare_eq_true {comparison : Comparison} {value : Value} {row : Row} :
    (Memory.backend known).compare comparison column value row = true ↔
      ∃ order ∈ column.order? value row, comparison.accepts order = true := by
  simp only [Memory.backend, Memory.Column.order?]
  cases column.value? row with
  | none => simp
  | some cell => cases h : cell.compare? value <;> simp [h]

theorem null_eq_true {row : Row} :
    (Memory.backend known).null false column row = true ↔ column.cell? row = none := by
  simp [Memory.backend]

theorem notNull_eq_true {row : Row} :
    (Memory.backend known).null true column row = true ↔ column.cell? row ≠ none := by
  simp [Memory.backend, Option.isSome_iff_ne_none]

variable (hkind : column.kind = .text ∨ column.kind = .coerced) {row : Row}
include hkind

/-- Texts are compared by their characters. -/
theorem compare_text_eq_true {comparison : Comparison} {value : String} :
    (Memory.backend known).compare comparison column (.text value) row = true ↔
      ∃ text ∈ column.text? row, comparison.accepts (compare text value) = true := by
  rw [compare_eq_true, Memory.Column.order?, Memory.Column.value?_eq_text? hkind]
  cases column.text? row <;> simp [Value.compare?]

theorem like_eq_true {negated : Bool} {pattern : String} :
    (Memory.backend known).like negated column pattern row = true ↔
      ∃ text ∈ column.text? row, (Like.matchesText pattern text != negated) = true := by
  simp only [Memory.backend, Memory.Column.value?_eq_text? hkind]
  cases column.text? row <;> simp

theorem TextTest.compile_decides (value : String) (test : TextTest) :
    Option.Rel Decides (test.compile (Memory.backend known) column value)
      (test.condition? column value) := by
  cases test with
  | equals =>
    refine .some fun row => (compare_text_eq_true hkind).trans ?_
    simp [Comparison.accepts]
  | notEqual =>
    refine .some fun row => (compare_text_eq_true hkind).trans ?_
    simp [Comparison.accepts]
  | contains =>
    refine .some fun row => (like_eq_true hkind).trans ?_
    simp only [Bool.bne_false, Like.matchesText_contains]
  | notContains =>
    refine .some fun row => (like_eq_true hkind).trans ?_
    simp only [Bool.bne_true, Bool.not_eq_true', ← Bool.not_eq_true, Like.matchesText_contains]
  | startsWith =>
    refine .some fun row => (like_eq_true hkind).trans ?_
    simp only [Bool.bne_false, Like.matchesText_startsWith]
  | endsWith =>
    refine .some fun row => (like_eq_true hkind).trans ?_
    simp only [Bool.bne_false, Like.matchesText_endsWith]
  | blank => exact .some fun row => null_eq_true
  | notBlank => exact .some fun row => notNull_eq_true
  | unknown => exact .none

end

section
variable {known : Known} {column : Memory.Column} {value : Value} {row : Row}

theorem compare_greaterOrEqual_eq_true :
    (Memory.backend known).compare .greaterOrEqual column value row = true ↔
      ∃ order ∈ column.order? value row, order = .gt ∨ order = .eq := by
  rw [compare_eq_true]
  refine exists_congr fun order => and_congr_right fun _ => ?_
  cases order <;> simp [Comparison.accepts]

theorem compare_lessOrEqual_eq_true :
    (Memory.backend known).compare .lessOrEqual column value row = true ↔
      ∃ order ∈ column.order? value row, order = .lt ∨ order = .eq := by
  rw [compare_eq_true]
  refine exists_congr fun order => and_congr_right fun _ => ?_
  cases order <;> simp [Comparison.accepts]

/-- A test with an upper value that can be read, or without one, has no error. -/
theorem ScalarTest.compile_decides (known : Known) (column : Memory.Column) (value : Value)
    (upper : Option Value) (test : ScalarTest) :
    ∃ p, test.compile (Memory.backend known) column value (.ok upper) = .ok p ∧
      Option.Rel Decides p (test.condition? column value upper) := by
  cases test with
  | equals =>
    refine ⟨_, rfl, .some fun row => compare_eq_true.trans ?_⟩
    simp [Comparison.accepts]
  | notEqual =>
    refine ⟨_, rfl, .some fun row => compare_eq_true.trans ?_⟩
    refine exists_congr fun order => and_congr_right fun _ => ?_
    cases order <;> simp [Comparison.accepts]
  | lessThan =>
    refine ⟨_, rfl, .some fun row => compare_eq_true.trans ?_⟩
    simp [Comparison.accepts]
  | lessThanOrEqual => exact ⟨_, rfl, .some fun row => compare_lessOrEqual_eq_true⟩
  | greaterThan =>
    refine ⟨_, rfl, .some fun row => compare_eq_true.trans ?_⟩
    simp [Comparison.accepts]
  | greaterThanOrEqual => exact ⟨_, rfl, .some fun row => compare_greaterOrEqual_eq_true⟩
  | blank => exact ⟨_, rfl, .some fun row => null_eq_true⟩
  | notBlank => exact ⟨_, rfl, .some fun row => notNull_eq_true⟩
  | inRange =>
    cases upper with
    | none =>
      have halways : ∀ row, (Memory.backend known).always row = true := fun _ => rfl
      refine ⟨_, rfl, .some fun row => List.all_eq_true.trans ?_⟩
      simp [compare_greaterOrEqual_eq_true, halways]
    | some last =>
      refine ⟨_, rfl, .some fun row => List.all_eq_true.trans ?_⟩
      simp [compare_greaterOrEqual_eq_true, compare_lessOrEqual_eq_true]
  | unknown => exact ⟨_, rfl, .none⟩

end

/-! ### Compiled conditions and nodes -/

section
variable {known : Known} {id : String}

/-- Only a truth value can be equal to one. -/
theorem compare_bool_eq_true {column : Memory.Column} {b : Bool} {row : Row} :
    (Memory.backend known).compare .equal column (.bool b) row = true ↔
      column.value? row = some (.bool b) := by
  have hcell : ∀ cell : Value, cell.compare? (.bool b) = some .eq ↔ cell = .bool b := by
    intro cell
    cases cell <;> simp [Value.compare?]
  rw [compare_eq_true, Memory.Column.order?]
  cases column.value? row with
  | none => simp
  | some cell => simp [Comparison.accepts, hcell]

/-- What is kept of a node is a predicate when the node asks a condition. -/
theorem keep_decides {node : Node} {result : Except Error (Option (Row → Bool))} {outcome : Outcome}
    (h : Agrees result outcome) :
    Option.Rel Decides (keep id node result).value outcome.condition? := by
  cases h with
  | vacuous => exact .none
  | failing error => exact .none
  | condition h => exact .some h

section
variable {ps : List (Row → Bool)} {conditions : List (Row → Prop)}

theorem forall_mem_iff (h : List.Forall₂ Decides ps conditions) (row : Row) :
    (∀ p ∈ ps, p row = true) ↔ ∀ holds ∈ conditions, holds row := by
  induction h with
  | nil => simp
  | cons h _ ih => rw [List.forall_mem_cons, List.forall_mem_cons, h row, ih]

theorem exists_mem_iff (h : List.Forall₂ Decides ps conditions) (row : Row) :
    (∃ p ∈ ps, p row = true) ↔ ∃ holds ∈ conditions, holds row := by
  induction h with
  | nil => simp
  | cons h _ ih => rw [List.exists_mem_cons_iff, List.exists_mem_cons_iff, h row, ih]

end

theorem lookUp_of_has (h : known.has id = true) (kind : ColumnKind) :
    lookUp (Memory.backend known) id kind = .ok ⟨id, kind⟩ := by
  simp only [lookUp, Memory.backend, h, if_true]
  rfl

theorem lookUp_of_not_has (h : ¬ known.has id = true) (kind : ColumnKind) :
    lookUp (Memory.backend known) id kind = .error (.column (.unknown id)) := by
  simp only [lookUp, Memory.backend, h]
  rfl

theorem dateValue_of_ok {text : String} {date : DateTime} (h : DateTime.ofGrid text = .ok date) :
    dateValue text = .ok (.dateTime date) := by
  rw [dateValue, h]

theorem dateValue_of_error {text : String} {fault : DateTime.Fault}
    (h : DateTime.ofGrid text = .error fault) :
    dateValue text = .error (.invalidDate text fault) := by
  rw [dateValue, h]

/-- The predicate of a test of text that may be missing. -/
theorem agrees_textTest {kind : ColumnKind} (hkind : kind = .text ∨ kind = .coerced) (value : String)
    (test : Option TextTest) :
    Agrees (.ok (test.bind (TextTest.compile (Memory.backend known) ⟨id, kind⟩ value)))
      (.ofOption (test.bind (TextTest.condition? ⟨id, kind⟩ value))) := by
  cases test with
  | none => exact .vacuous
  | some test =>
    have hcolumn : (⟨id, kind⟩ : Memory.Column).kind = .text ∨ kind = .coerced := hkind
    exact .ofOption (TextTest.compile_decides hcolumn value test)

/-- A test other than a range does not look at the upper value. -/
theorem ScalarTest.compile_eq_of_ne {γ π : Type} (backend : Backend γ π) (column : γ) (value : Value)
    (upper upper' : Except Error (Option Value)) {test : ScalarTest} (h : test ≠ .inRange) :
    test.compile backend column value upper = test.compile backend column value upper' := by
  cases test with
  | inRange => exact absurd rfl h
  | _ => rfl

theorem ScalarTest.compile_agrees {column : Memory.Column} {value : Value} (upper : Option Value)
    (test : ScalarTest) : Agrees (test.compile (Memory.backend known) column value (.ok upper))
      (.ofOption (test.condition? column value upper)) := by
  obtain ⟨p, hp, h⟩ := test.compile_decides known column value upper
  rw [hp]
  exact .ofOption h

/-- A test of dates, whose upper value is read only if the test is a range. -/
theorem ScalarTest.compile_dates_agrees {column : Memory.Column} {value : Value} (upper : Option String)
    (test : ScalarTest) :
    Agrees (test.compile (Memory.backend known) column value (upper.mapM dateValue))
      (match (usedUpper (some test) upper).mapM DateTime.ofGrid with
        | .ok upper => .ofOption (test.condition? column value (upper.map .dateTime))
        | .error _ => .failing) := by
  by_cases htest : test = .inRange
  · subst htest
    rw [usedUpper, if_pos rfl]
    cases upper with
    | none => exact compile_agrees none .inRange
    | some last =>
      cases hlast : DateTime.ofGrid last with
      | error fault =>
        have hvalue : (some last).mapM dateValue = .error (.invalidDate last fault) := by
          rw [Option.mapM_some, dateValue_of_error hlast]
          rfl
        rw [hvalue, Option.mapM_some, hlast]
        exact .failing _
      | ok date =>
        have hvalue : (some last).mapM dateValue = .ok (some (.dateTime date)) := by
          rw [Option.mapM_some, dateValue_of_ok hlast]
          rfl
        rw [hvalue, Option.mapM_some, hlast]
        exact compile_agrees (some (.dateTime date)) .inRange
  · have hunused : usedUpper (some test) upper = none := if_neg fun h => htest (Option.some.inj h)
    rw [hunused, compile_eq_of_ne _ _ _ _ (.ok none) htest]
    exact compile_agrees none test

/-- A condition gives what it asks. -/
theorem Condition.compile_agrees (c : Condition) :
    Agrees (c.compile (Memory.backend known) id) (c.outcome known id) := by
  cases c with
  | text test value | object test value =>
    cases value with
    | none => exact .vacuous
    | some value =>
      rw [compile, outcome]
      by_cases hid : known.has id = true
      · rw [lookUp_of_has hid, if_pos hid]
        exact agrees_textTest (by simp) value test
      · rw [lookUp_of_not_has hid, if_neg hid]
        exact .failing _
  | number test value upper =>
    cases value with
    | none => exact .vacuous
    | some value =>
      rw [compile, outcome]
      by_cases hid : known.has id = true
      · rw [lookUp_of_has hid, if_pos hid]
        cases test with
        | none => exact .vacuous
        | some test => exact test.compile_agrees (upper.map .number)
      · rw [lookUp_of_not_has hid, if_neg hid]
        exact .failing _
  | date test value upper =>
    cases value with
    | none => exact .vacuous
    | some value =>
      rw [compile, outcome]
      by_cases hid : known.has id = true
      · rw [lookUp_of_has hid, if_pos hid]
        cases hvalue : DateTime.ofGrid value with
        | error fault =>
          rw [dateValue_of_error hvalue]
          exact .failing _
        | ok date =>
          rw [dateValue_of_ok hvalue]
          cases test with
          | none => exact .vacuous
          | some test =>
            have h : Agrees (test.compile (Memory.backend known) ⟨id, .dateTime⟩ (.dateTime date)
                (upper.mapM dateValue)) _ := test.compile_dates_agrees upper
            cases hupper : (ScalarTest.usedUpper (some test) upper).mapM DateTime.ofGrid with
            | error fault => rwa [hupper] at h
            | ok upper' => rwa [hupper] at h
      · rw [lookUp_of_not_has hid, if_neg hid]
        exact .failing _
  | boolean test =>
    rw [compile, outcome]
    by_cases hid : known.has id = true
    · rw [lookUp_of_has hid, if_pos hid]
      exact .condition fun row => compare_bool_eq_true
    · rw [lookUp_of_not_has hid, if_neg hid]
      exact .failing _

mutual

theorem Node.compile_agrees : ∀ node : Node,
    Agrees (node.compile (Memory.backend known) id).value (node.outcome known id)
  | .single c _ => by
    rw [Node.value_compile_single, Node.outcome]
    exact c.compile_agrees
  | .group join nodes own => by
    have hnodes := compileAll_decides nodes
    rw [Node.value_compile_group]
    match join with
    | none | some .unknown =>
      rw [Node.outcome]
      exact .vacuous
    | some .and =>
      rw [Node.outcome]
      exact .condition fun row => List.all_eq_true.trans (forall_mem_iff hnodes row)
    | some .or =>
      rw [Node.outcome]
      exact .condition fun row => List.any_eq_true.trans (exists_mem_iff hnodes row)

/-- The predicates of nodes are those of what they ask. -/
theorem compileAll_decides : ∀ nodes : List Node,
    List.Forall₂ Decides (compileAll (Memory.backend known) id nodes).value (conditions known id nodes)
  | [] => by
    rw [compileAll, conditions]
    exact .nil
  | node :: nodes => by
    rw [value_compileAll_cons, conditions]
    exact forall₂_toList_append (keep_decides node.compile_agrees) (compileAll_decides nodes)

end

theorem compileEntries_decides (known : Known) (entries : List (String × Node)) :
    List.Forall₂ Decides (compileEntries (Memory.backend known) entries).value
      (entries.flatMap fun entry => (entry.2.outcome known entry.1).condition?.toList) := by
  induction entries with
  | nil => exact .nil
  | cons entry entries ih =>
    rw [List.flatMap_cons]
    exact forall₂_toList_append (keep_decides entry.2.compile_agrees) ih

theorem Outcome.condition?_eq_some {outcome : Outcome} {holds : Row → Prop} :
    outcome.condition? = some holds ↔ outcome = .condition holds := by
  cases outcome <;> simp [condition?]

theorem Model.holds_iff {m : Model} {known : Known} {row : Row} : m.Holds known row ↔
    ∀ holds ∈ m.entries.flatMap fun entry => (entry.2.outcome known entry.1).condition?.toList,
      holds row := by
  simp only [Holds, List.mem_flatMap, Option.mem_toList, Outcome.condition?_eq_some]
  exact ⟨fun h holds ⟨entry, hentry, houtcome⟩ => h entry hentry holds houtcome,
    fun h entry hentry holds houtcome => h holds ⟨entry, hentry, houtcome⟩⟩

/-- Compiled for rows in memory a filter model is true of the rows that are as its columns ask, and each
node on a column comes to what it asks: nothing, an error, or a predicate that decides its condition. -/
theorem Model.compile_iff_holds (known : Known) (m : Model) :
    (∀ row, (m.compile (Memory.backend known)).value row = true ↔ m.Holds known row) ∧
    ∀ (id : String) (node : Node),
      Agrees (node.compile (Memory.backend known) id).value (node.outcome known id) := by
  refine ⟨fun row => ?_, fun id node => node.compile_agrees⟩
  have hentries := compileEntries_decides known m.entries
  rw [Model.value_compile, Model.holds_iff]
  split
  · next hempty =>
    rw [List.isEmpty_iff.1 hempty, List.forall₂_nil_left_iff] at hentries
    rw [hentries]
    exact iff_of_true rfl nofun
  · exact List.all_eq_true.trans (forall_mem_iff hentries row)

end

end Filter

end DataGrid
