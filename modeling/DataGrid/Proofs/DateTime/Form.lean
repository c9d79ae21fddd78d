import DataGrid.DateTime.Text
import Mathlib.Data.Nat.Digits.Defs

/-!
# The form of written dates

A date and time is written as its year and then always in the form `-dd-dd dd:dd:dd`. The year has four
digits exactly if it lies between 0 and 9999, else it has a sign; so only then the whole text has the fixed
form `dddd-dd-dd dd:dd:dd` (`isFixed_toGrid_iff`).
-/

namespace DataGrid.DateTime

/-- The text has the form of the template, in which `d` stands for any digit. -/
def Fits (template text : List Char) : Prop :=
  List.Forall₂ (fun t c => if t = 'd' then c.isDigit = true else c = t) template text

namespace Fits

variable {s t u v : List Char}

theorem append (h : Fits s u) (h' : Fits t v) : Fits (s ++ t) (u ++ v) := by
  induction h with
  | nil => exact h'
  | cons hc _ ih => exact .cons hc ih

theorem mark {c : Char} (hc : c ≠ 'd') (h : Fits s u) : Fits (c :: s) (c :: u) :=
  .cons (by rw [if_neg hc]) h

theorem of_digits (h : ∀ c ∈ u, c.isDigit = true) : Fits (List.replicate u.length 'd') u := by
  induction u with
  | nil => exact .nil
  | cons c u ih =>
    obtain ⟨hc, hu⟩ := List.forall_mem_cons.1 h
    exact .cons (by rwa [if_pos rfl]) (ih hu)

end Fits

/-- What stands behind the year. -/
def restForm : List Char :=
  ['-', 'd', 'd', '-', 'd', 'd', ' ', 'd', 'd', ':', 'd', 'd', ':', 'd', 'd']

/-- The text has 19 characters of the form `dddd-dd-dd dd:dd:dd`. -/
def IsFixed (text : String) : Prop := Fits (['d', 'd', 'd', 'd'] ++ restForm) text.toList

instance (template text : List Char) : Decidable (Fits template text) :=
  inferInstanceAs (Decidable (List.Forall₂ _ template text))

instance (text : String) : Decidable (IsFixed text) := inferInstanceAs (Decidable (Fits ..))

/-! ### Numbers -/

namespace Item

theorem length_padded {width n : Nat} (hwidth : 0 < width) (h : n < 10 ^ width) :
    (padded width n).length = width := by
  have hdigits : (Nat.toDigits 10 n).length ≤ width := Nat.toDigits_length 10 n width hwidth h
  rw [padded, List.length_append, List.length_replicate]
  omega

theorem isDigit_of_mem_padded {width n : Nat} : ∀ c ∈ padded width n, c.isDigit = true := by
  intro c hc
  rcases List.mem_append.1 hc with hc | hc
  · rw [List.eq_of_mem_replicate hc]
    rfl
  · exact Nat.isDigit_of_mem_toDigits (by decide) (by decide) hc

theorem fits_padded {width n : Nat} (hwidth : 0 < width) (h : n < 10 ^ width) :
    Fits (List.replicate width 'd') (padded width n) := by
  have hfits : Fits (List.replicate (padded width n).length 'd') (padded width n) :=
    .of_digits isDigit_of_mem_padded
  rwa [length_padded hwidth h] at hfits

theorem writeNumber_of_lt {width : Nat} {value : Int} (hvalue : 0 ≤ value) (h : value.natAbs < 10 ^ width) :
    writeNumber width value = padded width value.natAbs := by
  have hpow : ¬ Nat.pow 10 width ≤ value.natAbs := Nat.not_le_of_lt h
  rw [writeNumber, if_neg (by omega), if_neg hpow]

/-- A number that has not just its digits has a sign. -/
theorem exists_writeNumber {width : Nat} {value : Int} (h : ¬ (0 ≤ value ∧ value.natAbs < 10 ^ width)) :
    ∃ sign rest, (sign = '-' ∨ sign = '+') ∧ writeNumber width value = sign :: rest := by
  unfold writeNumber
  split_ifs with hnegative hlarge
  · exact ⟨'-', _, .inl rfl, rfl⟩
  · exact ⟨'+', _, .inr rfl, rfl⟩
  · exact absurd ⟨by omega, Nat.lt_of_not_le hlarge⟩ h

theorem fits_writeNumber_two {n : Nat} (h : n < 100) : Fits ['d', 'd'] (writeNumber 2 n) := by
  rw [writeNumber_of_lt (Int.natCast_nonneg n) h]
  exact fits_padded (Nat.zero_lt_two) h

end Item

/-! ### Dates -/

open Item (writeNumber)

def restOf (d : DateTime) : List Char :=
  '-' :: (writeNumber 2 d.date.month ++ '-' :: (writeNumber 2 d.date.day ++ ' ' ::
    (writeNumber 2 d.clock.hour ++ ':' :: (writeNumber 2 d.clock.minute ++ ':' ::
      writeNumber 2 (d.clock.second + d.clock.nanos / 1000000000 : Nat)))))

theorem toList_toGrid (d : DateTime) : d.toGrid.toList = writeNumber 4 d.date.year ++ d.restOf := by
  simp [toGrid, format, String.toList_ofList, writeItems, gridPattern, Item.write, Field.width, Field.get,
    fields, restOf]

theorem day_lt (d : Date) : d.day < 100 := by
  have hday := d.day_mem.2
  have hmonth : daysInMonth d.year d.month ≤ 31 := by
    unfold daysInMonth
    split_ifs <;> decide
  omega

theorem fits_restOf (d : DateTime) : Fits restForm d.restOf := by
  have hmonth : d.date.month < 100 := by have := d.date.month_mem; omega
  have hhour : d.clock.hour < 100 := Nat.lt_trans d.clock.hour_lt (by decide)
  have hminute : d.clock.minute < 100 := Nat.lt_trans d.clock.minute_lt (by decide)
  -- a leap second is written as 60
  have hsecond : d.clock.second + d.clock.nanos / 1000000000 < 100 := by
    have := d.clock.second_lt
    have := d.clock.nanos_mem
    omega
  exact .mark (by decide) ((Item.fits_writeNumber_two hmonth).append
    (.mark (by decide) ((Item.fits_writeNumber_two (day_lt d.date)).append
      (.mark (by decide) ((Item.fits_writeNumber_two hhour).append
        (.mark (by decide) ((Item.fits_writeNumber_two hminute).append
          (.mark (by decide) (Item.fits_writeNumber_two hsecond)))))))))

/-- The fixed form is that of the years that have four digits. -/
theorem isFixed_toGrid_iff (d : DateTime) : IsFixed d.toGrid ↔ 0 ≤ d.date.year ∧ d.date.year ≤ 9999 := by
  have hyear : (0 ≤ d.date.year ∧ d.date.year.natAbs < 10 ^ 4) ↔ 0 ≤ d.date.year ∧ d.date.year ≤ 9999 := by
    omega
  rw [IsFixed, toList_toGrid, ← hyear]
  constructor
  · intro hfits
    by_contra h
    obtain ⟨sign, rest, hsign, hwrite⟩ := Item.exists_writeNumber h
    rw [hwrite] at hfits
    have hdigit : sign.isDigit = true := by
      cases hfits with
      | cons hdigit _ => exact hdigit
    rcases hsign with rfl | rfl
    · exact absurd hdigit (by decide)
    · exact absurd hdigit (by decide)
  · rintro ⟨hnonneg, hlt⟩
    rw [Item.writeNumber_of_lt hnonneg hlt]
    exact (Item.fits_padded (show 0 < 4 by decide) hlt).append (fits_restOf d)

end DataGrid.DateTime
