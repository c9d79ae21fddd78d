import DataGrid.Memory
import DataGrid.Proofs.Binary64.Shortest
import DataGrid.Proofs.DateTime.RoundTrip
import DataGrid.Proofs.Dictionary
import Mathlib.Data.Char

/-!
# The order of written dates

In years with four digits the grid's form writes all fields with a fixed width, the weightiest first, and a leap
second as 60. So the texts are in the order of the dates and times (`InGrid.toGrid_lt_iff`), byte by byte
(`bytes_toGrid_lt_iff`), and a database that keeps dates as such texts compares them as cells in memory are
compared.
-/

namespace DataGrid.DateTime

/-! ### Numbers of one width -/

theorem lt_ofDigitChars : ∀ {as bs : List Char} (start : Nat), (∀ c ∈ as, c.isDigit = true) →
    (∀ c ∈ bs, c.isDigit = true) → as.length = bs.length → as < bs →
    Nat.ofDigitChars 10 as start < Nat.ofDigitChars 10 bs start
  | _, [], _, _, _, _, h => absurd h (List.not_lt_nil _)
  | [], _ :: _, _, _, _, hlength, _ => nomatch hlength
  | a :: as, b :: bs, start, has, hbs, hlength, h => by
    rw [List.forall_mem_cons] at has hbs
    have htail : as.length = bs.length := Nat.succ.inj hlength
    rw [Nat.ofDigitChars_cons, Nat.ofDigitChars_cons]
    rcases List.cons_lt_cons_iff.1 h with hlt | ⟨rfl, hlt⟩
    · have ha : '0'.toNat ≤ a.toNat := by
        have := has.1
        simp only [Char.isDigit, Bool.and_eq_true, decide_eq_true_eq] at this
        exact this.1
      have hab : a.toNat < b.toNat := hlt
      have hnext : 10 * start + (a.toNat - '0'.toNat) + 1 ≤ 10 * start + (b.toNat - '0'.toNat) := by omega
      calc Nat.ofDigitChars 10 as (10 * start + (a.toNat - '0'.toNat))
          < (10 * start + (a.toNat - '0'.toNat) + 1) * 10 ^ as.length := Binary64.ofDigitChars_lt _ has.2
        _ ≤ 10 ^ bs.length * (10 * start + (b.toNat - '0'.toNat)) := by
          rw [htail, Nat.mul_comm]
          exact Nat.mul_le_mul_left _ hnext
        _ ≤ Nat.ofDigitChars 10 bs (10 * start + (b.toNat - '0'.toNat)) := by
          rw [Nat.ofDigitChars_eq_ofDigitChars_zero]
          exact Nat.le_add_right _ _
    · exact lt_ofDigitChars _ has.2 hbs.2 htail hlt

theorem append_lt_append : ∀ {as bs : List Char} {cs ds : List Char}, as.length = bs.length → as < bs →
    as ++ cs < bs ++ ds
  | _, [], _, _, _, h => absurd h (List.not_lt_nil _)
  | [], _ :: _, _, _, hlength, _ => nomatch hlength
  | a :: as, b :: bs, cs, ds, hlength, h => by
    rw [List.cons_append, List.cons_append, List.cons_lt_cons_iff]
    rcases List.cons_lt_cons_iff.1 h with hlt | ⟨rfl, hlt⟩
    · exact .inl hlt
    · exact .inr ⟨rfl, append_lt_append (Nat.succ.inj hlength) hlt⟩

namespace Item

variable {width m n : Nat} {cs ds : List Char}

theorem padded_append_lt (hwidth : 0 < width) (hn : n < 10 ^ width) (h : m < n) :
    padded width m ++ cs < padded width n ++ ds := by
  have hlength : (padded width m).length = (padded width n).length := by
    rw [length_padded hwidth hn, length_padded hwidth (h.trans hn)]
  refine append_lt_append hlength ?_
  -- the larger number has not the smaller text
  rcases lt_trichotomy (padded width m) (padded width n) with hlt | heq | hgt
  · exact hlt
  · have hvalue := congrArg digitsNumber heq
    rw [digitsNumber_padded, digitsNumber_padded] at hvalue
    exact absurd hvalue h.ne
  · have hvalue := lt_ofDigitChars 0 isDigit_of_mem_padded isDigit_of_mem_padded hlength.symm hgt
    have hvalue : digitsNumber (padded width n) < digitsNumber (padded width m) := hvalue
    rw [digitsNumber_padded, digitsNumber_padded] at hvalue
    exact absurd hvalue h.asymm

/-- Texts that begin with numbers of one width are in the order of the numbers, and then of what follows. -/
theorem padded_append_lt_iff (hwidth : 0 < width) (hm : m < 10 ^ width) (hn : n < 10 ^ width) :
    padded width m ++ cs < padded width n ++ ds ↔ m < n ∨ m = n ∧ cs < ds := by
  constructor
  · intro h
    rcases lt_trichotomy m n with hlt | rfl | hgt
    · exact .inl hlt
    · refine .inr ⟨rfl, ?_⟩
      by_contra hcs
      rcases lt_or_eq_of_le (not_lt.1 hcs) with hds | rfl
      · exact absurd (List.append_left_lt hds) h.asymm
      · exact lt_irrefl _ h
    · exact absurd (padded_append_lt hwidth hm hgt) h.asymm
  · rintro (hlt | ⟨rfl, hcs⟩)
    · exact padded_append_lt hwidth hn hlt
    · exact List.append_left_lt hcs

end Item

theorem cons_lt_cons {c : Char} {cs ds : List Char} : c :: cs < c :: ds ↔ cs < ds := by
  simp

/-! ### The order of texts -/

/-- The second as it is written, up to 60. -/
def writtenSecond (d : DateTime) : Nat := d.clock.second + d.clock.nanos / 1000000000

theorem compare_eq_lt_iff {d e : DateTime} : compare d e = .lt ↔
    d.date.year < e.date.year ∨ d.date.year = e.date.year ∧ (d.date.month < e.date.month ∨
      d.date.month = e.date.month ∧ (d.date.day < e.date.day ∨ d.date.day = e.date.day ∧
        (d.clock.hour < e.clock.hour ∨ d.clock.hour = e.clock.hour ∧ (d.clock.minute < e.clock.minute ∨
          d.clock.minute = e.clock.minute ∧ (d.clock.second < e.clock.second ∨
            d.clock.second = e.clock.second ∧ d.clock.nanos < e.clock.nanos))))) := by
  show compare d.key e.key = .lt ↔ _
  simp [key, List.compare_cons_cons, Ordering.then_eq_lt, Int.compare_eq_lt]

theorem compare_eq_eq_iff {d e : DateTime} : compare d e = .eq ↔ d = e := by
  show compare d.key e.key = .eq ↔ _
  rw [Std.compare_eq_iff_eq]
  constructor
  · intro h
    obtain ⟨⟨year, month, day, _, _⟩, hour, minute, second, nanos, _, _, _, _⟩ := d
    obtain ⟨⟨year', month', day', _, _⟩, hour', minute', second', nanos', _, _, _, _⟩ := e
    simp only [key, List.cons.injEq, Int.natCast_inj] at h
    obtain ⟨rfl, rfl, rfl, rfl, rfl, rfl, rfl, -⟩ := h
    rfl
  · rintro rfl
    rfl

theorem compare_eq_gt_iff {d e : DateTime} : compare d e = .gt ↔ compare e d = .lt := by
  show compare d.key e.key = .gt ↔ compare e.key d.key = .lt
  exact Std.OrientedCmp.gt_iff_lt

/-- Where seconds are whole, a leap second is after second 59 and before the next minute in writing as well. -/
theorem InGrid.writtenSecond_lt_iff {d e : DateTime} (hd : d.InGrid) (he : e.InGrid) :
    d.writtenSecond < e.writtenSecond ↔ d.clock.second < e.clock.second ∨
      d.clock.second = e.clock.second ∧ d.clock.nanos < e.clock.nanos := by
  have hnanos := hd.nanos_eq
  have hnanos' := he.nanos_eq
  have hsecond := d.clock.second_lt
  have hsecond' := e.clock.second_lt
  unfold writtenSecond
  omega

/-- The fields behind the year have two digits at most. -/
theorem twoDigits (d : DateTime) : d.date.month < 10 ^ 2 ∧ d.date.day < 10 ^ 2 ∧ d.clock.hour < 10 ^ 2 ∧
    d.clock.minute < 10 ^ 2 ∧ d.writtenSecond < 10 ^ 2 := by
  have hmonth := d.date.month_mem
  have hday := day_lt d.date
  have hhour := d.clock.hour_lt
  have hminute := d.clock.minute_lt
  have hsecond := d.clock.second_lt
  have hnanos := d.clock.nanos_mem
  unfold writtenSecond
  omega

/-- Of a year with four digits all fields have a fixed width. -/
theorem toList_toGrid_of_year {d : DateTime} (hyear : d.FourDigits) :
    d.toGrid.toList = Item.padded 4 d.date.year.natAbs ++ '-' :: (Item.padded 2 d.date.month ++ '-' ::
      (Item.padded 2 d.date.day ++ ' ' :: (Item.padded 2 d.clock.hour ++ ':' ::
        (Item.padded 2 d.clock.minute ++ ':' :: (Item.padded 2 d.writtenSecond ++ []))))) := by
  obtain ⟨hmonth, hday, hhour, hminute, hsecond⟩ := d.twoDigits
  have htwo {n : Nat} (h : n < 10 ^ 2) : Item.writeNumber 2 n = Item.padded 2 n :=
    Item.writeNumber_of_lt (Int.natCast_nonneg n) h
  have hseconds : Item.writeNumber 2 (d.clock.second + d.clock.nanos / 1000000000 : Nat) =
      Item.padded 2 d.writtenSecond := htwo hsecond
  rw [toList_toGrid, Item.writeNumber_of_lt hyear.1 hyear.natAbs_lt, restOf, htwo hmonth, htwo hday, htwo hhour,
    htwo hminute, hseconds, List.append_nil]

/-- The order of the texts is that of the dates and times: field by field, as all fields have a fixed width. -/
theorem InGrid.toGrid_lt_iff {d e : DateTime} (hd : d.InGrid) (he : e.InGrid)
    (hyear : d.FourDigits) (hyear' : e.FourDigits) :
    d.toGrid < e.toGrid ↔ compare d e = .lt := by
  obtain ⟨hmonth, hday, hhour, hminute, hsecond⟩ := d.twoDigits
  obtain ⟨hmonth', hday', hhour', hminute', hsecond'⟩ := e.twoDigits
  have hpositive := hyear.1
  have hpositive' := hyear'.1
  have hlt : d.date.year.natAbs < e.date.year.natAbs ↔ d.date.year < e.date.year := by omega
  have heq : d.date.year.natAbs = e.date.year.natAbs ↔ d.date.year = e.date.year := by omega
  rw [String.lt_iff, toList_toGrid_of_year hyear, toList_toGrid_of_year hyear',
    Item.padded_append_lt_iff (by decide) hyear.natAbs_lt hyear'.natAbs_lt, cons_lt_cons,
    Item.padded_append_lt_iff (by decide) hmonth hmonth', cons_lt_cons,
    Item.padded_append_lt_iff (by decide) hday hday', cons_lt_cons,
    Item.padded_append_lt_iff (by decide) hhour hhour', cons_lt_cons,
    Item.padded_append_lt_iff (by decide) hminute hminute', cons_lt_cons,
    Item.padded_append_lt_iff (by decide) hsecond hsecond', compare_eq_lt_iff]
  simp only [hlt, heq, hd.writtenSecond_lt_iff he, List.lt_irrefl, and_false, or_false]

theorem compare_eq_lt_iff_lt (s t : String) : compare s t = .lt ↔ s < t := compareOfLessAndEq_eq_lt

/-- Texts in the grid's form compare as the dates and times that they are written from. -/
theorem InGrid.compare_toGrid {d e : DateTime} (hd : d.InGrid) (he : e.InGrid)
    (hyear : d.FourDigits) (hyear' : e.FourDigits) :
    compare d.toGrid e.toGrid = compare d e := by
  cases h : compare d e with
  | lt => exact (compare_eq_lt_iff_lt _ _).2 ((hd.toGrid_lt_iff he hyear hyear').2 h)
  | eq =>
    obtain rfl := compare_eq_eq_iff.1 h
    exact Std.compare_eq_iff_eq.2 rfl
  | gt =>
    have hlt := (he.toGrid_lt_iff hd hyear' hyear).2 (compare_eq_gt_iff.1 h)
    exact Std.OrientedCmp.gt_iff_lt.2 ((compare_eq_lt_iff_lt _ _).2 hlt)

theorem bytes_lt_bytes_iff {s t : String} : bytes s < bytes t ↔ s < t := by
  refine ⟨fun h => ?_, bytes_lt_bytes⟩
  rw [String.lt_iff]
  rcases lt_trichotomy s.toList t.toList with hlt | heq | hgt
  · exact hlt
  · rw [String.toList_inj.1 heq] at h
    exact absurd h (List.lt_irrefl _)
  · exact absurd (bytes_lt_bytes (String.lt_iff.2 hgt)) (List.lt_asymm h)

/-- Of two dates and times that are read in the grid's form, in years with four digits, the earlier one has the
smaller text, byte by byte, and they are equal exactly if their texts are. So a cell with a date compares with
the date of a filter as their texts do. -/
theorem bytes_toGrid_lt_iff {s s' : String} {d d' : DateTime} (h : ofGrid s = .ok d) (h' : ofGrid s' = .ok d')
    (hyear : d.FourDigits) (hyear' : d'.FourDigits) :
    (compare d d' = .lt ↔ bytes d.toGrid < bytes d'.toGrid) ∧
      (d = d' ↔ d.toGrid = d'.toGrid) ∧
      ∀ (known : Memory.Known) (comparison : Comparison) (column : Memory.Column) (row : Memory.Row),
        column.value? row = some (.dateTime d) →
          (Memory.backend known).compare comparison column (.dateTime d') row =
            comparison.accepts (compare d.toGrid d'.toGrid) := by
  have hd := inGrid_of_ofGrid h
  have hd' := inGrid_of_ofGrid h'
  refine ⟨?_, (toGrid_inj hd hd').symm, fun known comparison column row hcell => ?_⟩
  · rw [bytes_lt_bytes_iff, hd.toGrid_lt_iff hd' hyear hyear']
  · rw [hd.compare_toGrid hd' hyear hyear']
    simp only [Memory.backend, hcell]
    rfl

/-- A leap second comes before the next minute. -/
theorem bytes_toGrid_lt_iff_leap :
    let row : Memory.Row := [("d", .string "2016-12-31T23:59:60")]
    let column : Memory.Column := ⟨"d", .dateTime⟩
    ∃ d d', ofGrid "2016-12-31 23:59:60" = .ok d ∧ ofGrid " 2017-1-1 0:0:0" = .ok d' ∧
      d.FourDigits ∧ d'.FourDigits ∧
      (compare d d' = .lt ↔ bytes d.toGrid < bytes d'.toGrid) ∧ (d = d' ↔ d.toGrid = d'.toGrid) ∧
      column.value? row = some (.dateTime d) ∧
      (Memory.backend none).compare .less column (.dateTime d') row =
        Comparison.less.accepts (compare d.toGrid d'.toGrid) := by
  intro row column
  let d : DateTime := ⟨⟨2016, 12, 31, by decide, by decide⟩, ⟨23, 59, 59, 1000000000, by decide, by decide,
    by decide, by decide⟩⟩
  let d' : DateTime := ⟨⟨2017, 1, 1, by decide, by decide⟩, ⟨0, 0, 0, 0, by decide, by decide, by decide, by decide⟩⟩
  have h : ofGrid "2016-12-31 23:59:60" = .ok d := by decide +kernel
  have h' : ofGrid " 2017-1-1 0:0:0" = .ok d' := by decide +kernel
  have hyear : d.FourDigits := by decide
  have hyear' : d'.FourDigits := by decide
  have hcell : column.value? row = some (.dateTime d) := by decide +kernel
  obtain ⟨horder, hequal, hcells⟩ := bytes_toGrid_lt_iff h h' hyear hyear'
  exact ⟨d, d', h, h', hyear, hyear', horder, hequal, hcell, hcells none .less column row hcell⟩

end DataGrid.DateTime
