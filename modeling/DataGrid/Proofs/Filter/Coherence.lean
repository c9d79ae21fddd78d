import DataGrid.Proofs.Filter.Meaning

/-!
# How the tests of one value hang together

Blank and not blank, the comparisons and the range are compiled each on its own. On every row their
verdicts fit together all the same (`Node.coherent_verdicts`): a null cell is blank and nothing else, a
cell that is not of the wanted kind is not blank and nothing else, and any other cell stands in one order
to the value, which decides all comparisons.
-/

namespace DataGrid.Filter

open Memory (Known Row Cell.value? Cell.number? Cell.dateTime?)

/-- Of three verdicts one is positive. -/
def ExactlyOne (a b c : Bool) : Prop := [a, b, c].count true = 1

/-- What a node on a column makes of a row, unless it gives no predicate. -/
def Node.verdict (known : Known) (id : String) (row : Row) (node : Node) : Option Bool :=
  match (node.compile (Memory.backend known) id).value with
  | .ok (some p) => some (p row)
  | _ => none

/-- What the tests of numbers and dates compare by. -/
inductive Scale where
  | number
  | date

namespace Scale

/-- What a filter gives to compare with. -/
abbrev Operand : Scale → Type
  | number => Binary64
  | date => String

def kind : Scale → ColumnKind
  | number => .number
  | date => .dateTime

def condition : (scale : Scale) → ScalarTest → scale.Operand → Option scale.Operand → Condition
  | number, test, x, upper => .number (some test) (some x) upper
  | date, test, text, upper => .date (some test) (some text) upper

/-- A number other than NaN, or a date that can be read. -/
def value? : (scale : Scale) → scale.Operand → Option Value
  | number, .nan => none
  | number, x => some (.number x)
  | date, text => (DateTime.ofGrid text).toOption.map .dateTime

/-- A cell that has no value to compare: it is of another kind, or NaN. -/
def Unreadable (scale : Scale) (cell : Json) : Prop :=
  Cell.value? scale.kind cell = none ∨ Cell.value? scale.kind cell = some (.number .nan)

end Scale

/-- The verdicts of all tests on a row, by its cell. `verdict` is for tests of one value, and `atUpper` for
tests of the upper value of the range, if there is one. -/
structure Coherent (scale : Scale) (cell : Option Json) (verdict : ScalarTest → Option Bool)
    (atUpper : Option (ScalarTest → Option Bool)) : Prop where
  null : cell = none → verdict .blank = some true ∧
    ∀ test, test ≠ .blank → test ≠ .unknown → verdict test = some false
  unreadable : ∀ json, cell = some json → scale.Unreadable json → verdict .notBlank = some true ∧
    ∀ test, test ≠ .notBlank → test ≠ .unknown → verdict test = some false
  readable : ∀ json, cell = some json → ¬ scale.Unreadable json →
    ∃ less equal greater inside : Bool, ExactlyOne less equal greater ∧
      verdict .lessThan = some less ∧ verdict .equals = some equal ∧ verdict .greaterThan = some greater ∧
      verdict .notEqual = some (less || greater) ∧ verdict .lessThanOrEqual = some (less || equal) ∧
      verdict .greaterThanOrEqual = some (equal || greater) ∧
      (∀ upper ∈ atUpper, upper .lessThanOrEqual = some inside) ∧ (atUpper = none → inside = true) ∧
      verdict .inRange = some ((equal || greater) && inside) ∧
      verdict .blank = some false ∧ verdict .notBlank = some true

/-! ### Tests of numbers and dates -/

/-- The verdict of a test by the order of the cell and the value, where `inside` is whether the cell is not
beyond the upper value. -/
def ScalarTest.verdict (isNull : Bool) (order : Option Ordering) (inside : Bool) : ScalarTest → Option Bool
  | equals => some (order.any Comparison.equal.accepts)
  | notEqual => some (order.any Comparison.notEqual.accepts)
  | lessThan => some (order.any Comparison.less.accepts)
  | lessThanOrEqual => some (order.any Comparison.lessOrEqual.accepts)
  | greaterThan => some (order.any Comparison.greater.accepts)
  | greaterThanOrEqual => some (order.any Comparison.greaterOrEqual.accepts)
  | blank => some isNull
  | notBlank => some !isNull
  | inRange => some (order.any Comparison.greaterOrEqual.accepts && inside)
  | unknown => none

theorem compare_eq_any {known : Known} (comparison : Comparison) (column : Memory.Column) (value : Value)
    (row : Row) : (Memory.backend known).compare comparison column value row =
      (column.order? value row).any comparison.accepts := by
  simp only [Memory.backend, Memory.Column.order?]
  cases column.value? row <;> rfl

/-- The cell is not beyond the upper value, if there is one. -/
def isInside (column : Memory.Column) (upper : Option Value) (row : Row) : Bool :=
  upper.all fun last => (column.order? last row).any Comparison.lessOrEqual.accepts

theorem ScalarTest.exists_compile (known : Known) (column : Memory.Column) (value : Value)
    (upper : Option Value) (row : Row) (test : ScalarTest) :
    ∃ p, test.compile (Memory.backend known) column value (.ok upper) = .ok p ∧ p.map (· row) =
      test.verdict (column.cell? row).isNone (column.order? value row) (isInside column upper row) := by
  have hcompare (comparison : Comparison) (value : Value) :
      (Memory.backend known).compare comparison column value row =
        (column.order? value row).any comparison.accepts := compare_eq_any comparison column value row
  cases test with
  | equals | notEqual | lessThan | lessThanOrEqual | greaterThan | greaterThanOrEqual =>
    exact ⟨_, rfl, by simp [verdict, hcompare]⟩
  | blank | notBlank => exact ⟨_, rfl, by simp [verdict, Memory.backend]⟩
  | unknown => exact ⟨none, rfl, rfl⟩
  | inRange =>
    have hall (p q : Row → Bool) : (Memory.backend known).all [p, q] row = (p row && q row) := by
      simp [Memory.backend]
    have halways : (Memory.backend known).always row = true := rfl
    cases upper with
    | none => exact ⟨_, rfl, by simp [verdict, hall, halways, hcompare, isInside]⟩
    | some last => exact ⟨_, rfl, by simp [verdict, hall, hcompare, isInside]⟩

namespace Scale

theorem value?_number_eq_some {x : Binary64} {value : Value} :
    value? .number x = some value ↔ x ≠ .nan ∧ value = .number x := by
  cases x <;> simp [value?, eq_comm]

theorem value?_date_eq_some {text : String} {value : Value} :
    value? .date text = some value ↔ ∃ date, DateTime.ofGrid text = .ok date ∧ value = .dateTime date := by
  simp only [value?]
  cases DateTime.ofGrid text <;> simp [Except.toOption, eq_comm]

section
variable {known : Known} {id : String} {scale : Scale} {v : scale.Operand} {value : Value} {row : Row} {json : Json}

/-- Whatever the scale, the verdict is that of the test on what the value and the upper value are read as. Only
a range reads the upper value. -/
theorem verdict_condition (hid : known.has id = true) (hv : scale.value? v = some value) (test : ScalarTest)
    (upper : Option scale.Operand) (hupper : test = .inRange → ∀ u ∈ upper, (scale.value? u).isSome = true)
    (join : Option Join) (row : Row) :
    (Node.single (scale.condition test v upper) join).verdict known id row =
      test.verdict (row.cell? id).isNone ((⟨id, scale.kind⟩ : Memory.Column).order? value row)
        (isInside ⟨id, scale.kind⟩ (upper.bind scale.value?) row) := by
  have hcompile : (scale.condition test v upper).compile (Memory.backend known) id =
      test.compile (Memory.backend known) ⟨id, scale.kind⟩ value (.ok (upper.bind scale.value?)) := by
    cases scale with
    | number =>
      obtain ⟨-, rfl⟩ := value?_number_eq_some.1 hv
      rw [condition, Condition.compile, lookUp_of_has hid]
      by_cases htest : test = .inRange
      · have hlast : upper.map .number = upper.bind (value? .number) := by
          cases upper with
          | none => rfl
          | some u =>
            obtain ⟨last, hlast⟩ := Option.isSome_iff_exists.1 (hupper htest u rfl)
            obtain ⟨-, rfl⟩ := value?_number_eq_some.1 hlast
            exact hlast.symm
        rw [← hlast]
        rfl
      · exact ScalarTest.compile_eq_of_ne _ _ _ _ _ htest
    | date =>
      obtain ⟨date, hdate, rfl⟩ := value?_date_eq_some.1 hv
      rw [condition, Condition.compile, lookUp_of_has hid, dateValue_of_ok hdate]
      by_cases htest : test = .inRange
      · have hlast : upper.mapM dateValue = .ok (upper.bind (value? .date)) := by
          cases upper with
          | none => rfl
          | some u =>
            obtain ⟨last, hlast⟩ := Option.isSome_iff_exists.1 (hupper htest u rfl)
            obtain ⟨date, hdate, rfl⟩ := value?_date_eq_some.1 hlast
            rw [Option.mapM_some, dateValue_of_ok hdate, Option.bind_some, hlast]
            rfl
        rw [hlast]
        rfl
      · exact ScalarTest.compile_eq_of_ne _ _ _ _ _ htest
  obtain ⟨p, hp, hverdict⟩ :=
    test.exists_compile known ⟨id, scale.kind⟩ value (upper.bind scale.value?) row
  rw [Node.verdict, Node.value_compile_single, hcompile, hp]
  refine Eq.trans ?_ hverdict
  cases p <;> rfl

theorem order?_eq_bind (hcell : row.cell? id = some json) :
    (⟨id, scale.kind⟩ : Memory.Column).order? value row =
      (Cell.value? scale.kind json).bind fun cell => cell.compare? value := by
  have hvalue : (⟨id, scale.kind⟩ : Memory.Column).value? row = Cell.value? scale.kind json := by
    rw [Memory.Column.value?, Memory.Column.cell?, hcell]
    rfl
  rw [Memory.Column.order?, hvalue]
  rfl

theorem Unreadable.order?_eq_none (hread : scale.Unreadable json) (hcell : row.cell? id = some json) :
    (⟨id, scale.kind⟩ : Memory.Column).order? value row = none := by
  rw [order?_eq_bind hcell]
  rcases hread with hread | hread <;> rw [hread]
  · rfl
  · cases value <;> rfl

/-- Two numbers other than NaN have an order, and so have two dates. -/
theorem exists_order (hv : scale.value? v = some value) (hcell : row.cell? id = some json)
    (hread : ¬ scale.Unreadable json) :
    ∃ order, (⟨id, scale.kind⟩ : Memory.Column).order? value row = some order := by
  rw [order?_eq_bind hcell]
  simp only [Unreadable, not_or] at hread
  cases scale with
  | number =>
    obtain ⟨hnan, rfl⟩ := value?_number_eq_some.1 hv
    have hrank (x : Binary64) (hx : x ≠ .nan) : ∃ rank, x.rank? = some rank := by
      cases x <;> simp_all [Binary64.rank?]
    cases hnumber : Cell.number? json with
    | none => simp [kind, Cell.value?, hnumber] at hread
    | some x =>
      simp only [kind, Cell.value?, hnumber, Option.map_some] at hread ⊢
      obtain ⟨i, hi⟩ := hrank x (by rintro rfl; exact hread.2 rfl)
      obtain ⟨j, hj⟩ := hrank v hnan
      exact ⟨compare i j, by simp [Value.compare?, Binary64.compare?, hi, hj]⟩
  | date =>
    obtain ⟨date, -, rfl⟩ := value?_date_eq_some.1 hv
    cases hdate : Cell.dateTime? json with
    | none => simp [kind, Cell.value?, hdate] at hread
    | some cell => exact ⟨compare cell date, by simp [kind, Cell.value?, hdate, Value.compare?]⟩

theorem coherent_verdict (hid : known.has id = true) (hv : (scale.value? v).isSome = true)
    {upper : ScalarTest → Option scale.Operand} (hupper : ∀ u ∈ upper .inRange, (scale.value? u).isSome = true)
    (join : Option Join) (row : Row) :
    Coherent scale (row.cell? id)
      (fun test => (Node.single (scale.condition test v (upper test)) join).verdict known id row)
      ((upper .inRange).map fun u test => (Node.single (scale.condition test u none) join).verdict known id row) := by
  obtain ⟨value, hv⟩ := Option.isSome_iff_exists.1 hv
  have hverdict (test : ScalarTest) :=
    verdict_condition hid hv test (upper test) (by rintro rfl; exact hupper) join row
  refine ⟨fun hcell => ?_, fun json hcell hread => ?_, fun json hcell hread => ?_⟩
  · have horder : (⟨id, scale.kind⟩ : Memory.Column).order? value row = none := by
      simp [Memory.Column.order?, Memory.Column.value?, Memory.Column.cell?, hcell]
    simp only [hverdict, horder, hcell]
    refine ⟨rfl, fun test hblank hknown => ?_⟩
    cases test <;> simp_all [ScalarTest.verdict]
  · simp only [hverdict, hread.order?_eq_none hcell, hcell]
    refine ⟨rfl, fun test hblank hknown => ?_⟩
    cases test <;> simp_all [ScalarTest.verdict]
  · obtain ⟨order, horder⟩ := exists_order hv hcell hread
    let inside := isInside ⟨id, scale.kind⟩ ((upper .inRange).bind scale.value?) row
    have hinside : ∀ u ∈ upper .inRange,
        (Node.single (scale.condition .lessThanOrEqual u none) join).verdict known id row = some inside := by
      intro u hu
      obtain ⟨last, hlast⟩ := Option.isSome_iff_exists.1 (hupper u hu)
      have hbind : (upper .inRange).bind scale.value? = some last := by rw [Option.mem_def.1 hu]; exact hlast
      rw [verdict_condition hid hlast .lessThanOrEqual none (by rintro ⟨⟩)]
      simp [inside, hbind, ScalarTest.verdict, isInside]
    refine ⟨order == .lt, order == .eq, order == .gt, inside, by cases order <;> rfl, ?_⟩
    simp only [hverdict, horder, hcell, ScalarTest.verdict, Option.any_some]
    refine ⟨?_, ?_, ?_, ?_, ?_, ?_, ?_, ?_, ?_, rfl, rfl⟩
    case refine_7 => simpa using hinside
    case refine_8 =>
      intro hnone
      simp [inside, Option.map_eq_none_iff.1 hnone, isInside]
    all_goals cases order <;> rfl

end

end Scale

/-! ### Tests of text -/

/-- The families that look at the text of a cell. -/
inductive TextFamily where
  | text
  | object

namespace TextFamily

def kind : TextFamily → ColumnKind
  | text => .text
  | object => .coerced

def condition : TextFamily → TextTest → String → Condition
  | text, test, value => .text (some test) (some value)
  | object, test, value => .object (some test) (some value)

variable {known : Known} {id : String} (family : TextFamily) (value : String) (join : Option Join) (row : Row)

theorem verdict_condition (hid : known.has id = true) (test : TextTest) :
    (Node.single (family.condition test value) join).verdict known id row =
      (test.compile (Memory.backend known) ⟨id, family.kind⟩ value).map (· row) := by
  have hcompile : (family.condition test value).compile (Memory.backend known) id =
      .ok (test.compile (Memory.backend known) ⟨id, family.kind⟩ value) := by
    cases family <;> rw [condition, Condition.compile, lookUp_of_has hid] <;> rfl
  rw [Node.verdict, Node.value_compile_single, hcompile]
  cases test.compile (Memory.backend known) ⟨id, family.kind⟩ value <;> rfl

/-- A cell is blank, or its text is the value or is not, and contains the value or does not. -/
theorem exactlyOne_verdicts (hid : known.has id = true) :
    let verdict test := (Node.single (family.condition test value) join).verdict known id row
    ∃ blank equals notEqual contains notContains : Bool,
      verdict .blank = some blank ∧ verdict .equals = some equals ∧ verdict .notEqual = some notEqual ∧
      verdict .contains = some contains ∧ verdict .notContains = some notContains ∧
      ExactlyOne blank equals notEqual ∧ ExactlyOne blank contains notContains := by
  intro verdict
  have hverdict (test : TextTest) : verdict test = _ := family.verdict_condition value join row hid test
  let column : Memory.Column := ⟨id, family.kind⟩
  have hvalue : column.value? row = (column.text? row).map .text :=
    Memory.Column.value?_eq_text? (by cases family <;> simp [column, kind]) row
  have hcompare (comparison : Comparison) : (Memory.backend known).compare comparison column (.text value) row =
      (column.text? row).any fun text => comparison.accepts (compare text value) := by
    rw [compare_eq_any, Memory.Column.order?, hvalue]
    cases column.text? row <;> rfl
  have hlike (negated : Bool) (pattern : String) : (Memory.backend known).like negated column pattern row =
      (column.text? row).any fun text => Like.matchesText pattern text != negated := by
    simp only [Memory.backend, hvalue]
    cases column.text? row <;> rfl
  have hblank : (Memory.backend known).null false column row = (column.text? row).isNone := by
    simp [Memory.backend, Memory.Column.text?]
  refine ⟨_, _, _, _, _, (hverdict .blank).trans (congrArg some hblank),
    (hverdict .equals).trans (congrArg some (hcompare .equal)),
    (hverdict .notEqual).trans (congrArg some (hcompare .notEqual)),
    (hverdict .contains).trans (congrArg some (hlike false _)),
    (hverdict .notContains).trans (congrArg some (hlike true _)), ?_⟩
  cases column.text? row with
  | none => exact ⟨rfl, rfl⟩
  | some text =>
    have hcomplement (b : Bool) : ExactlyOne false b !b := by cases b <;> rfl
    constructor
    · simpa [Comparison.accepts] using hcomplement (decide (compare text value = .eq))
    · simpa using hcomplement (Like.matchesText ("%" ++ Like.escape value ++ "%") text)

end TextFamily

/-- On a known column, whatever the row: the tests of numbers and dates of one value, and of one range, have
verdicts that fit together, and so have those of a text. -/
theorem Node.coherent_verdicts {known : Known} {id : String} (hid : known.has id = true) (join : Option Join)
    (row : Row) :
    (∀ (scale : Scale) (v : scale.Operand) (upper : ScalarTest → Option scale.Operand),
      (scale.value? v).isSome = true → (∀ u ∈ upper .inRange, (scale.value? u).isSome = true) →
        Coherent scale (row.cell? id)
          (fun test => (Node.single (scale.condition test v (upper test)) join).verdict known id row)
          ((upper .inRange).map fun u test =>
            (Node.single (scale.condition test u none) join).verdict known id row)) ∧
    ∀ (family : TextFamily) (value : String),
      let verdict test := (Node.single (family.condition test value) join).verdict known id row
      ∃ blank equals notEqual contains notContains : Bool,
        verdict .blank = some blank ∧ verdict .equals = some equals ∧ verdict .notEqual = some notEqual ∧
        verdict .contains = some contains ∧ verdict .notContains = some notContains ∧
        ExactlyOne blank equals notEqual ∧ ExactlyOne blank contains notContains :=
  ⟨fun _ _ _ hv hupper => Scale.coherent_verdict hid hv hupper join row,
    fun family value => family.exactlyOne_verdicts value join row hid⟩

/-- A cell with fractions of a second and a zone, in a range of two dates. -/
theorem Node.coherent_verdicts_dates :
    let known : Known := some ["n", "d"]
    let row : Row := [("d", .string "2024-03-01T00:30:00.5+01:00")]
    let first : Scale.date.Operand := "2024-02-29 23:30:00"
    let last : Scale.date.Operand := "2024-03-01 00:00:00"
    known.has "d" = true ∧ (Scale.date.value? first).isSome = true ∧ (Scale.date.value? last).isSome = true ∧
      Coherent .date (row.cell? "d")
        (fun test => (Node.single (Scale.date.condition test first (some last)) none).verdict known "d" row)
        (some fun test => (Node.single (Scale.date.condition test last none) none).verdict known "d" row) := by
  intro known row first last
  have hid : known.has "d" = true := by decide
  have hfirst : (Scale.date.value? first).isSome = true := by decide +kernel
  have hlast : (Scale.date.value? last).isSome = true := by decide +kernel
  refine ⟨hid, hfirst, hlast, ?_⟩
  exact (Node.coherent_verdicts hid none row).1 .date first (fun _ => some last) hfirst (by rintro _ ⟨⟩; exact hlast)

end DataGrid.Filter
