import DataGrid.Proofs.Filter.Meaning

/-!
# Searching text

Four tests of text look for their value in the text of a cell, as a part of it, at its start or at its
end. They take each character of the value as it stands, also the special characters of patterns
(`Node.compile_search`).
-/

namespace DataGrid.Filter

open Memory (Known Row)

/-- The tests that look for a value in a text. -/
inductive Search where
  | contains
  | notContains
  | startsWith
  | endsWith
deriving DecidableEq

namespace Search

def test : Search → TextTest
  | contains => .contains
  | notContains => .notContains
  | startsWith => .startsWith
  | endsWith => .endsWith

/-- The text has the value where the search looks for it; with `notContains` it has it nowhere. -/
def Finds (value text : String) : Search → Prop
  | contains => ∃ before after : String, text = before ++ value ++ after
  | notContains => ∀ before after : String, text ≠ before ++ value ++ after
  | startsWith => ∃ after : String, text = value ++ after
  | endsWith => ∃ before : String, text = before ++ value

end Search

section
variable {value text : String}

theorem infix_toList_iff :
    value.toList <:+: text.toList ↔ ∃ before after : String, text = before ++ value ++ after := by
  constructor
  · rintro ⟨before, after, h⟩
    refine ⟨.ofList before, .ofList after, String.toList_inj.1 ?_⟩
    simp [← h]
  · rintro ⟨before, after, rfl⟩
    exact ⟨before.toList, after.toList, by simp⟩

theorem prefix_toList_iff : value.toList <+: text.toList ↔ ∃ after : String, text = value ++ after := by
  constructor
  · rintro ⟨after, h⟩
    refine ⟨.ofList after, String.toList_inj.1 ?_⟩
    simp [← h]
  · rintro ⟨after, rfl⟩
    exact ⟨after.toList, by simp⟩

theorem suffix_toList_iff : value.toList <:+ text.toList ↔ ∃ before : String, text = before ++ value := by
  constructor
  · rintro ⟨before, h⟩
    refine ⟨.ofList before, String.toList_inj.1 ?_⟩
    simp [← h]
  · rintro ⟨before, rfl⟩
    exact ⟨before.toList, by simp⟩

end

/-- A search asks for a cell that is not null and for such a text of it. -/
theorem Search.condition?_test (search : Search) (column : Memory.Column) (value : String) :
    ∃ holds, search.test.condition? column value = some holds ∧ ∀ row, holds row ↔
      ∃ cell, row.cell? column.name = some cell ∧ search.Finds value (Memory.Cell.text cell) := by
  have hcell {P : String → Prop} {row : Row} : (∃ text ∈ column.text? row, P text) ↔
      ∃ cell, row.cell? column.name = some cell ∧ P (Memory.Cell.text cell) := by
    simp [Memory.Column.text?, Memory.Column.cell?]
  cases search with
  | contains =>
    refine ⟨_, rfl, fun row => hcell.trans ?_⟩
    simp only [infix_toList_iff, Finds]
  | notContains =>
    refine ⟨_, rfl, fun row => hcell.trans ?_⟩
    simp only [infix_toList_iff, Finds, not_exists, ne_eq]
  | startsWith =>
    refine ⟨_, rfl, fun row => hcell.trans ?_⟩
    simp only [prefix_toList_iff, Finds]
  | endsWith =>
    refine ⟨_, rfl, fun row => hcell.trans ?_⟩
    simp only [suffix_toList_iff, Finds]

theorem Agrees.exists_decides {result : Except Error (Option (Row → Bool))} {holds : Row → Prop}
    (h : Agrees result (.condition holds)) : ∃ p, result = .ok (some p) ∧ Decides p holds := by
  cases h with
  | condition h => exact ⟨_, rfl, h⟩

/-- On a known column a search for any value gives a predicate. It is true of the rows whose cell in this
column is not null and has the value in its text as the search asks, character by character. -/
theorem Node.compile_search {known : Known} {id : String} (hid : known.has id = true) (search : Search)
    (value : String) (join : Option Join) {condition : Condition}
    (h : condition = .text (some search.test) (some value) ∨
      condition = .object (some search.test) (some value)) :
    ∃ p, ((Node.single condition join).compile (Memory.backend known) id).value = .ok (some p) ∧
      ∀ row, p row = true ↔
        ∃ cell, row.cell? id = some cell ∧ search.Finds value (Memory.Cell.text cell) := by
  obtain ⟨kind, houtcome⟩ : ∃ kind, condition.outcome known id =
      .ofOption (search.test.condition? ⟨id, kind⟩ value) := by
    rcases h with rfl | rfl
    · exact ⟨.text, if_pos hid⟩
    · exact ⟨.coerced, if_pos hid⟩
  obtain ⟨holds, hsearch, hholds⟩ := search.condition?_test ⟨id, kind⟩ value
  have hagrees : Agrees (condition.compile (Memory.backend known) id) (condition.outcome known id) :=
    condition.compile_agrees
  rw [houtcome, hsearch] at hagrees
  obtain ⟨p, hp, hdecides⟩ := hagrees.exists_decides
  rw [Node.value_compile_single]
  exact ⟨p, hp, fun row => (hdecides row).trans (hholds row)⟩

/-- A value of special characters only, one of which looks as if it was escaped. -/
theorem Node.compile_search_special :
    Known.has (some ["n", "s"]) "s" = true ∧
      (Condition.object (some Search.contains.test) (some "%\\_") =
          .text (some Search.contains.test) (some "%\\_") ∨
        Condition.object (some Search.contains.test) (some "%\\_") =
          .object (some Search.contains.test) (some "%\\_")) ∧
      ∃ p, ((Node.single (.object (some Search.contains.test) (some "%\\_")) none).compile
          (Memory.backend (some ["n", "s"])) "s").value = .ok (some p) ∧
        ∀ row, p row = true ↔
          ∃ cell, row.cell? "s" = some cell ∧ Search.contains.Finds "%\\_" (Memory.Cell.text cell) := by
  have hid : Known.has (some ["n", "s"]) "s" = true := by decide
  exact ⟨hid, .inr rfl, Node.compile_search hid .contains "%\\_" none (.inr rfl)⟩

end DataGrid.Filter
