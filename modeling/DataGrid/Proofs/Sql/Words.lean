import DataGrid.Proofs.Sql.Statement

/-!
# The characters of statements

Column names, numbers, keys of an order and pages are written with letters, digits and the marks that stand
between them (`Wordy`). Placeholders, operators and the values that are written out have characters of their own,
so they are not to be found in what is wordy.
-/

namespace DataGrid.Sql

/-! ### Texts made of texts -/

section
variable {P : String → Prop} (hempty : P "") (happend : ∀ {a b : String}, P a → P b → P (a ++ b))
include hempty happend

/-- What holds of texts and their separator holds of the texts with the separator between them, if it goes over to
texts one after the other. -/
theorem intercalate_closed {separator : String} (hseparator : P separator) :
    ∀ {texts : List String}, (∀ text ∈ texts, P text) → P (separator.intercalate texts)
  | [], _ => by
    rw [String.intercalate_nil]
    exact hempty
  | [a], h => by
    rw [String.intercalate_singleton]
    exact h a (List.mem_singleton_self a)
  | a :: b :: texts, h => by
    rw [List.forall_mem_cons] at h
    rw [String.intercalate_cons_cons]
    exact happend (happend h.1 hseparator) (intercalate_closed hseparator h.2)

theorem clause_closed {keyword : String} (hkeyword : P keyword) {body : Option String} (hbody : ∀ text ∈ body, P text) :
    P (Table.clause keyword body) := by
  cases body with
  | none => exact hempty
  | some text => exact happend hkeyword (hbody text rfl)

end

/-! ### Wordy texts -/

/-- Letters, digits, and the marks of names, lists and conversions. -/
def isWord (c : Char) : Bool := Identifier.isRest c || ['\"', ' ', ',', '(', ')', ':'].contains c

def Wordy (text : String) : Prop := ∀ c ∈ text.toList, isWord c = true

instance (text : String) : Decidable (Wordy text) := List.decidableBAll (fun c => isWord c = true) text.toList

namespace Wordy

variable {a b : String}

theorem append (ha : Wordy a) (hb : Wordy b) : Wordy (a ++ b) := by
  unfold Wordy
  rw [String.toList_append, List.forall_mem_append]
  exact ⟨ha, hb⟩

theorem empty : Wordy "" := by decide

theorem clause {keyword : String} (hkeyword : Wordy keyword) {body : Option String}
    (hbody : ∀ text ∈ body, Wordy text) : Wordy (Table.clause keyword body) :=
  clause_closed empty append hkeyword hbody

theorem not_mem (h : Wordy a) {c : Char} (hc : isWord c = false) : c ∉ a.toList := by
  intro hmem
  rw [h c hmem] at hc
  cases hc

end Wordy

/-! ### Names and numbers -/

theorem isWord_of_isRest {c : Char} (h : Identifier.isRest c = true) : isWord c = true := by
  rw [isWord, h, Bool.true_or]

theorem isRest_of_mem (name : Identifier) : ∀ c ∈ name.name.toList, Identifier.isRest c = true := by
  have hplain := name.plain
  rw [Identifier.isPlain] at hplain
  cases hchars : name.name.toList with
  | nil => exact fun c hc => absurd hc List.not_mem_nil
  | cons d ds =>
    rw [hchars, Identifier.isPlainChars, Bool.and_eq_true, List.all_eq_true] at hplain
    have hstart : Identifier.isRest d = true := by
      have h := hplain.1
      simp only [Identifier.isStart, Identifier.isRest, Char.isAlphanum, Bool.or_eq_true] at h ⊢
      exact h.imp_left .inl
    exact List.forall_mem_cons.2 ⟨hstart, hplain.2⟩

theorem wordy_quote (name : Identifier) : Wordy (quote name.name) :=
  ((show Wordy "\"" by decide).append fun c hc => isWord_of_isRest (isRest_of_mem name c hc)).append (by decide)

theorem isDigit_of_mem_toString {n : Nat} {c : Char} (hc : c ∈ (toString n).toList) : c.isDigit = true := by
  rw [Nat.toString_eq_ofList_toDigits, String.toList_ofList] at hc
  exact Nat.isDigit_of_mem_toDigits (by decide) (by decide) hc

theorem wordy_toString (n : Nat) : Wordy (toString n) := by
  intro c hc
  refine isWord_of_isRest ?_
  simp [Identifier.isRest, Char.isAlphanum, isDigit_of_mem_toString hc]

theorem wordy_limitOffset (limit offset : Nat) : Wordy (limitOffset limit offset) :=
  (((show Wordy "LIMIT " by decide).append (wordy_toString limit)).append (by decide)).append (wordy_toString offset)

/-! ### Columns and orders -/

theorem Dialect.wordy_castText {column : String} (h : Wordy column) (dialect : Dialect) :
    Wordy (dialect.castText column) := by
  cases dialect with
  | postgres => exact h.append (by decide)
  | duckdb | sqlite => exact ((show Wordy "CAST(" by decide).append h).append (by decide)

theorem Column.wordy_text (dialect : Dialect) (column : Column) : Wordy (column.text dialect) := by
  unfold Column.text
  split
  · exact dialect.wordy_castText (wordy_quote column.name)
  · exact wordy_quote column.name

theorem Dialect.wordy_orderTerm {column : String} (h : Wordy column) (descending nullsLast : Bool) (dialect : Dialect) :
    Wordy (dialect.orderTerm column descending nullsLast) := by
  have hdirection : Wordy (if descending then "DESC" else "ASC") := by cases descending <;> decide
  have hplace : Wordy (if nullsLast then "1 ELSE 0" else "0 ELSE 1") := by cases nullsLast <;> decide
  have hnulls : Wordy (if nullsLast then " NULLS LAST" else " NULLS FIRST") := by cases nullsLast <;> decide
  cases dialect with
  | duckdb | postgres => exact ((h.append (by decide)).append hdirection).append hnulls
  | sqlite =>
    have hcase := (((show Wordy "CASE WHEN " by decide).append h).append
      (show Wordy " IS NULL THEN " by decide)).append hplace
    exact (((hcase.append (by decide)).append h).append (by decide)).append hdirection

theorem Table.wordy_orderBy (table : Table) (keys : List Sort.Key) :
    ∀ text ∈ (table.orderBy keys).value, Wordy text := by
  intro text htext
  rw [Table.value_orderBy] at htext
  split at htext
  · cases htext
  · cases htext
    refine intercalate_closed Wordy.empty Wordy.append (by decide) fun term hterm => ?_
    obtain ⟨c, _, rfl⟩ := List.mem_map.1 hterm
    exact table.dialect.wordy_orderTerm (wordy_quote c.1) c.2 true

end DataGrid.Sql
