import DataGrid.Memory
import DataGrid.Proofs.DateTime.RoundTrip
import DataGrid.Sql

/-!
# Dates of filters and their texts

The text of a filter's date is written anew before it becomes a parameter of a statement. That loses nothing:
the text is that of the very date and time that cells in memory are compared with, and a filter with it in place
of the first text is the same filter (`canonical_toGrid`).
-/

namespace DataGrid.Filter

variable {γ π : Type} (backend : Backend γ π) (id : String)

theorem dateValue_of_ofGrid {s : String} {d : DateTime} (h : DateTime.ofGrid s = .ok d) :
    dateValue s = .ok (.dateTime d) := by
  rw [dateValue, h]

/-- Only what its dates are read as counts for a condition. -/
theorem Condition.compile_date_congr {s t : String} (h : dateValue s = dateValue t) (test : Option ScalarTest)
    (other : Option String) :
    (date test (some s) other).compile backend id = (date test (some t) other).compile backend id ∧
      (date test other (some s)).compile backend id = (date test other (some t)).compile backend id := by
  refine ⟨?_, ?_⟩
  · simp only [compile, h]
  · have hupper : (some s).mapM dateValue = (some t).mapM dateValue := by
      simp only [Option.mapM_some, h]
    cases other with
    | none => rfl
    | some other => simp only [compile, hupper]

/-- A cell is compared with a date if it is one. -/
theorem compare_dateTime_iff (known : Memory.Known) (comparison : Comparison) (column : Memory.Column)
    (d : DateTime) (row : Memory.Row) :
    (Memory.backend known).compare comparison column (.dateTime d) row = true ↔
      ∃ cell, column.value? row = some (.dateTime cell) ∧ comparison.accepts (compare cell d) = true := by
  simp only [Memory.backend]
  cases column.value? row with
  | none => simp
  | some value => cases value <;> simp [Value.compare?]

/-- What is written for a text that is read as a date and time is read as the same one, so texts are written
alike exactly if they are read alike. A filter with what is written for its date is the same filter, and the
parameter of a comparison in SQL is a text of the date and time that cells in memory are compared with. -/
theorem canonical_toGrid {s : String} {d : DateTime} (h : DateTime.ofGrid s = .ok d) :
    DateTime.ofGrid d.toGrid = .ok d ∧
    (∀ s' d', DateTime.ofGrid s' = .ok d' → (d.toGrid = d'.toGrid ↔ d = d')) ∧
    (∀ {γ π : Type} (backend : Backend γ π) (id : String) (test : Option ScalarTest) (other : Option String),
      (Condition.date test (some d.toGrid) other).compile backend id =
          (Condition.date test (some s) other).compile backend id ∧
        (Condition.date test other (some d.toGrid)).compile backend id =
          (Condition.date test other (some s)).compile backend id) ∧
    dateValue s = .ok (.dateTime d) ∧
    ∀ (comparison : Comparison) (table : Sql.Table) (sqlColumn : Sql.Column), ∃ text,
      (table.bind (table.backend.compare comparison sqlColumn (.dateTime d))).2.map (·.toJson) = [.string text] ∧
      DateTime.ofGrid text = .ok d ∧
      ∀ (known : Memory.Known) (column : Memory.Column) (row : Memory.Row),
        (Memory.backend known).compare comparison column (.dateTime d) row = true ↔
          ∃ cell, column.value? row = some (.dateTime cell) ∧ comparison.accepts (compare cell d) = true := by
  have hd := DateTime.inGrid_of_ofGrid h
  have hread := hd.ofGrid_toGrid
  have hvalue := dateValue_of_ofGrid h
  refine ⟨hread, fun s' d' h' => DateTime.toGrid_inj hd (DateTime.inGrid_of_ofGrid h'), ?_, hvalue, ?_⟩
  · intro γ π backend id test other
    exact Condition.compile_date_congr backend id ((dateValue_of_ofGrid hread).trans hvalue.symm) test other
  · intro comparison table sqlColumn
    exact ⟨d.toGrid, rfl, hread, fun known column row => compare_dateTime_iff known comparison column d row⟩

/-- A leap second in the first year of the calendar comes from a text with a blank, a sign and short numbers; the
minute after it has another text. -/
theorem canonical_toGrid_leap :
    let s := " -262143-1-1\t0:0:60"
    let s' := "-262143-1-1 0:1:0"
    ∃ d d', DateTime.ofGrid s = .ok d ∧ DateTime.ofGrid s' = .ok d' ∧ d ≠ d' ∧
      d.toGrid = "-262143-01-01 00:00:60" ∧ DateTime.ofGrid d.toGrid = .ok d ∧
      (d.toGrid = d'.toGrid ↔ d = d') ∧ dateValue s = .ok (.dateTime d) := by
  intro s s'
  let d : DateTime := ⟨⟨-262143, 1, 1, by decide, by decide⟩,
    ⟨0, 0, 59, 1000000000, by decide, by decide, by decide, by decide⟩⟩
  let d' : DateTime := ⟨⟨-262143, 1, 1, by decide, by decide⟩,
    ⟨0, 1, 0, 0, by decide, by decide, by decide, by decide⟩⟩
  have h : DateTime.ofGrid s = .ok d := by decide +kernel
  have h' : DateTime.ofGrid s' = .ok d' := by decide +kernel
  have htext : d.toGrid = "-262143-01-01 00:00:60" := by decide +kernel
  obtain ⟨hread, halike, -, hvalue, -⟩ := canonical_toGrid h
  exact ⟨d, d', h, h', by decide, htext, hread, halike s' d' h', hvalue⟩

end DataGrid.Filter
