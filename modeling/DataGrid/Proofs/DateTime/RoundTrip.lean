import DataGrid.Proofs.DateTime.Calendar
import DataGrid.Proofs.DateTime.Form
import DataGrid.Proofs.Except
import Mathlib.Data.List.TakeWhile

/-!
# Reading what is written

A date and time that the grid's form was read as is written in that form as a text that is read as the
same date and time (`InGrid.ofGrid_toGrid`, `inGrid_of_ofGrid`), whatever sign, blanks and short numbers
the text had that it was read from. Numbers are read as they are written where no digit stands behind them
(`readItems_dateTimeItems`), in all forms of dates.
-/

namespace DataGrid.DateTime

/-! ### Digits -/

/-- What stands behind a number does not go on with it. -/
def Stops (rest : List Char) : Prop := ∀ c ∈ rest.head?, c.isDigit = false

theorem stops_nil : Stops [] := nofun

theorem stops_cons {c : Char} {rest : List Char} (h : c.isDigit = false) : Stops (c :: rest) := by
  rintro _ ⟨⟩
  exact h

section
variable {ds rest : List Char}

theorem takeWhile_isDigit (hds : ∀ c ∈ ds, c.isDigit = true) (hstop : Stops rest) :
    (ds ++ rest).takeWhile Char.isDigit = ds := by
  rw [List.takeWhile_append_of_pos hds]
  cases rest with
  | nil => simp
  | cons c cs => simp [hstop c rfl]

/-- Digits are read up to the most that there may be, or up to what is no digit. -/
theorem readDigits_append {least most : Nat} (hds : ∀ c ∈ ds, c.isDigit = true) (hleast : least ≤ ds.length)
    (hmost : ds.length ≤ most) (hstop : ds.length = most ∨ Stops rest)
    (hfits : digitsNumber ds < 9223372036854775808) :
    readDigits least most (ds ++ rest) = .ok (ds, rest) := by
  have hdigits : ((ds ++ rest).take most).takeWhile Char.isDigit = ds := by
    rw [List.take_append, List.take_of_length_le hmost]
    rcases hstop with hlength | hstop
    · simp [hlength, List.takeWhile_eq_self_iff.2 hds]
    · refine takeWhile_isDigit hds fun c hc => hstop c ?_
      rw [List.head?_take] at hc
      split at hc
      · cases hc
      · exact hc
  rw [readDigits, hdigits]
  simp [Nat.not_lt.2 hleast, Nat.not_le.2 hfits]

end

namespace Item

theorem digitsNumber_padded (width n : Nat) : digitsNumber (padded width n) = n := by
  rw [digitsNumber, padded, Nat.ofDigitChars_append, Nat.ofDigitChars_replicate_zero]
  exact Nat.ofDigitChars_ten_toDigits

theorem padded_ne_nil (width n : Nat) : padded width n ≠ [] := by
  simp [padded, Nat.toDigits_ne_nil]

end Item

theorem isBlank_of_isDigit {c : Char} (h : c.isDigit = true) : isBlank c = false := by
  simp only [Char.isDigit, Bool.and_eq_true, decide_eq_true_eq] at h
  have hlow : 48 ≤ c.toNat := h.1
  have hhigh : c.toNat ≤ 57 := h.2
  simp [isBlank, blankRanges, inRanges]
  omega

theorem dropBlanks_cons {c : Char} {rest : List Char} (h : isBlank c = false) : dropBlanks (c :: rest) = c :: rest := by
  simp [dropBlanks, h]

/-! ### Numbers -/

theorem Field.width_pos (field : Field) : 0 < field.width := by cases field <;> decide

theorem Field.natAbs_lt_of_range {field : Field} {value : Int}
    (h : field.range.1 ≤ value ∧ value ≤ field.range.2) : value.natAbs < 9223372036854775808 := by
  cases field <;> simp only [range] at h <;> omega

/-- A number in a field's range that is written with digits only has as many as its field is wide. -/
theorem Field.lt_of_range {field : Field} {value : Int} (h : field.range.1 ≤ value ∧ value ≤ field.range.2)
    (hfield : field ≠ .year) : 0 ≤ value ∧ value.natAbs < 10 ^ field.width := by
  cases field with
  | year => exact absurd rfl hfield
  | month | day | hour | minute | second =>
    simp only [range, width] at h ⊢
    omega

theorem readLoose_digits {field : Field} {ds rest : List Char} (hds : ∀ c ∈ ds, c.isDigit = true) (hne : ds ≠ [])
    (hlength : ds.length ≤ field.width) (hstop : Stops rest) (hfits : digitsNumber ds < 9223372036854775808) :
    readLoose field (ds ++ rest) = .ok ((digitsNumber ds : Int), rest) := by
  obtain ⟨d, ds, rfl⟩ := List.exists_cons_of_ne_nil hne
  have hd : d.isDigit = true := hds d List.mem_cons_self
  have hread : readDigits 1 field.width (d :: (ds ++ rest)) = .ok (d :: ds, rest) :=
    readDigits_append hds (by simp) hlength (.inr hstop) hfits
  have hminus : d ≠ '-' := by
    rintro rfl
    exact absurd hd (by decide)
  have hplus : d ≠ '+' := by
    rintro rfl
    exact absurd hd (by decide)
  unfold readLoose
  rw [List.cons_append, dropBlanks_cons (isBlank_of_isDigit hd)]
  split
  · next h => exact absurd (List.cons.inj h).1 hminus
  · next h => exact absurd (List.cons.inj h).1 hplus
  · rw [hread]
    rfl

theorem readLoose_signed {sign : Char} (hsign : sign = '-' ∨ sign = '+') {ds rest : List Char}
    (hds : ∀ c ∈ ds, c.isDigit = true) (hne : ds ≠ []) (hstop : Stops rest)
    (hfits : digitsNumber ds < 9223372036854775808) :
    readLoose .year (sign :: (ds ++ rest)) =
      .ok (if sign = '-' then -(digitsNumber ds : Int) else digitsNumber ds, rest) := by
  have hread : readDigits 1 (ds ++ rest).length (ds ++ rest) = .ok (ds, rest) :=
    readDigits_append hds (List.length_pos_iff.2 hne) (by simp) (.inr hstop) hfits
  unfold readLoose
  rcases hsign with rfl | rfl
  · rw [dropBlanks_cons (by decide)]
    simp only [hread]
    rfl
  · rw [dropBlanks_cons (by decide)]
    simp only [hread]
    rfl

/-- What is written of a number in its field's range is read as that number again. -/
theorem readLoose_writeNumber {field : Field} {value : Int}
    (h : field.range.1 ≤ value ∧ value ≤ field.range.2) {rest : List Char} (hstop : Stops rest) :
    readLoose field (Item.writeNumber field.width value ++ rest) = .ok (value, rest) := by
  have hdigits : ∀ c ∈ Item.padded field.width value.natAbs, c.isDigit = true := Item.isDigit_of_mem_padded
  have hne := Item.padded_ne_nil field.width value.natAbs
  have hfits : digitsNumber (Item.padded field.width value.natAbs) < 9223372036854775808 := by
    rw [Item.digitsNumber_padded]
    exact Field.natAbs_lt_of_range h
  by_cases hplain : 0 ≤ value ∧ value.natAbs < 10 ^ field.width
  · rw [Item.writeNumber_of_lt hplain.1 hplain.2,
      readLoose_digits hdigits hne (Item.length_padded field.width_pos hplain.2).le hstop hfits,
      Item.digitsNumber_padded, Int.natAbs_of_nonneg hplain.1]
  · obtain rfl : field = .year := by
      by_contra hfield
      exact hplain (Field.lt_of_range h hfield)
    unfold Item.writeNumber
    split_ifs with hnegative hlarge
    · rw [List.cons_append, readLoose_signed (.inl rfl) hdigits hne hstop hfits, Item.digitsNumber_padded, if_pos rfl]
      congr 2
      omega
    · rw [List.cons_append, readLoose_signed (.inr rfl) hdigits hne hstop hfits, Item.digitsNumber_padded,
        if_neg (by decide)]
      congr 2
      omega
    · exact absurd ⟨by omega, Nat.lt_of_not_le hlarge⟩ hplain

/-! ### Items -/

theorem readItems_cons {item : Item} {items : List Item} {start next : Fields} {cs rest : List Char}
    (h : item.read start cs = .ok (next, rest)) :
    readItems start (item :: items) cs = readItems next items rest := by
  rw [readItems, h]
  rfl

theorem Field.store_of_range {field : Field} {value : Int} (h : field.range.1 ≤ value ∧ value ≤ field.range.2)
    (start : Fields) : field.store value start = .ok (field.set start value) := by
  rw [store, if_pos h]

/-- The text of a field's number. -/
def Field.write (f : Fields) (field : Field) : List Char := Item.writeNumber field.width (field.get f)

/-- All numbers lie in the ranges of their fields. -/
def Fields.InRange (f : Fields) : Prop :=
  ∀ field : Field, field.range.1 ≤ field.get f ∧ field.get f ≤ field.range.2

namespace Item

variable {f start : Fields} {rest : List Char}

theorem read_mark {c : Char} {allowed : List Char} (hc : c ∈ allowed) :
    (mark allowed).read start (c :: rest) = .ok (start, rest) := by
  simp [read, readMark, hc]

/-- The items for the fields read the numbers as they are written. -/
def ReadsNumbers (number : Field → Item) (f : Fields) : Prop :=
  ∀ field start rest, Stops rest →
    (number field).read start (field.write f ++ rest) = .ok (field.set start (field.get f), rest)

theorem readsNumbers_loose (hf : f.InRange) : ReadsNumbers loose f := by
  intro field start rest hstop
  rw [read, Field.write, readLoose_writeNumber (hf field) hstop]
  show (do return (← field.store (field.get f) start, rest)) = _
  rw [Field.store_of_range (hf field)]
  rfl

/-- Of a year with four digits all numbers have just their digits. -/
theorem readsNumbers_strict (hf : f.InRange) (hyear : 0 ≤ f.year ∧ f.year ≤ 9999) : ReadsNumbers strict f := by
  intro field start rest hstop
  have hplain : 0 ≤ field.get f ∧ (field.get f).natAbs < 10 ^ field.width := by
    cases field with
    | year =>
      simp only [Field.get, Field.width]
      omega
    | month | day | hour | minute | second => exact Field.lt_of_range (hf _) (by decide)
  have hlength := length_padded (field.width_pos) hplain.2
  have hread : readDigits field.width field.width (padded field.width (field.get f).natAbs ++ rest) =
      .ok (padded field.width (field.get f).natAbs, rest) := by
    refine readDigits_append isDigit_of_mem_padded hlength.ge hlength.le (.inl hlength) ?_
    rw [digitsNumber_padded]
    exact Field.natAbs_lt_of_range (hf field)
  have hvalue : (digitsNumber (padded field.width (field.get f).natAbs) : Int) = field.get f := by
    rw [digitsNumber_padded, Int.natAbs_of_nonneg hplain.1]
  rw [read, Field.write, writeNumber_of_lt hplain.1 hplain.2, hread]
  show (do return (← field.store (digitsNumber (padded field.width (field.get f).natAbs)) start, rest)) = _
  rw [hvalue, Field.store_of_range (hf field)]
  rfl

end Item

/-! ### Patterns -/

open Item (ReadsNumbers)

/-- A date, a separator and a time of day. -/
def dateTimeItems (number : Field → Item) (separator : Item) : List Item :=
  [number .year, .mark ['-'], number .month, .mark ['-'], number .day, separator,
    number .hour, .mark [':'], number .minute, .mark [':'], number .second]

/-- The form `yyyy-mm-dd`, a separator and `hh:mm:ss`. -/
def Fields.text (separator : Char) (f : Fields) : List Char :=
  Field.year.write f ++ '-' :: (Field.month.write f ++ '-' :: (Field.day.write f ++ separator ::
    (Field.hour.write f ++ ':' :: (Field.minute.write f ++ ':' :: Field.second.write f))))

theorem Fields.InRange.dropBlanks_hour {f : Fields} (hf : f.InRange) (rest : List Char) :
    dropBlanks (Field.hour.write f ++ rest) = Field.hour.write f ++ rest := by
  have hplain := Field.lt_of_range (hf .hour) (by decide)
  obtain ⟨c, cs, hcs⟩ := List.exists_cons_of_ne_nil (Item.padded_ne_nil Field.hour.width (Field.get f .hour).natAbs)
  have hc : c.isDigit = true := Item.isDigit_of_mem_padded c (hcs ▸ List.mem_cons_self)
  rw [Field.write, Item.writeNumber_of_lt hplain.1 hplain.2, hcs, List.cons_append,
    dropBlanks_cons (isBlank_of_isDigit hc)]

/-- Six numbers are read as they are written; a part of a second and a distance from UTC stay as they were. -/
theorem readItems_dateTimeItems {number : Field → Item} {separator : Item} {f : Fields} (hf : f.InRange)
    (hnumber : ReadsNumbers number f) {c : Char} (hdigit : c.isDigit = false)
    (hseparator : ∀ start rest, dropBlanks rest = rest → separator.read start (c :: rest) = .ok (start, rest))
    (start : Fields) (items : List Item) {rest : List Char} (hstop : Stops rest) :
    readItems start (dateTimeItems number separator ++ items) (f.text c ++ rest) =
      readItems { f with nanos := start.nanos, offset := start.offset } items rest := by
  have hdash : ∀ rest, Stops ('-' :: rest) := fun _ => stops_cons rfl
  have hcolon : ∀ rest, Stops (':' :: rest) := fun _ => stops_cons rfl
  simp only [dateTimeItems, Fields.text, List.cons_append, List.nil_append, List.append_assoc]
  rw [readItems_cons (hnumber .year _ _ (hdash _)), readItems_cons (Item.read_mark (by simp)),
    readItems_cons (hnumber .month _ _ (hdash _)), readItems_cons (Item.read_mark (by simp)),
    readItems_cons (hnumber .day _ _ (stops_cons hdigit)),
    readItems_cons (hseparator _ _ (hf.dropBlanks_hour _)),
    readItems_cons (hnumber .hour _ _ (hcolon _)), readItems_cons (Item.read_mark (by simp)),
    readItems_cons (hnumber .minute _ _ (hcolon _)), readItems_cons (Item.read_mark (by simp)),
    readItems_cons (hnumber .second _ _ hstop)]
  rfl

/-! ### From fields to dates and back -/

theorem inRange_fields {d : DateTime} (hyear : yearRange.1 ≤ d.date.year ∧ d.date.year ≤ yearRange.2) :
    d.fields.InRange := by
  intro field
  have hmonth := d.date.month_mem
  have hday := d.date.day_mem
  have hdays := Date.daysInMonth_le d.date.year d.date.month
  have hhour := d.clock.hour_lt
  have hminute := d.clock.minute_lt
  have hsecond := d.clock.second_lt
  have hnanos := d.clock.nanos_mem
  cases field <;> simp only [Field.range, Field.get, fields, yearRange] at hyear ⊢ <;> omega

/-- What fields say without their distance from UTC. Second 60 is a leap second. -/
structure Fields.Denotes (f : Fields) (d : DateTime) : Prop where
  year_mem : yearRange.1 ≤ f.year ∧ f.year ≤ yearRange.2
  date : f.year = d.date.year ∧ f.month = d.date.month ∧ f.day = d.date.day
  time : f.hour = d.clock.hour ∧ f.minute = d.clock.minute
  second : if f.second = 60 then d.clock.second = 59 ∧ d.clock.nanos = 1000000000 + f.nanos
    else d.clock.second = f.second ∧ d.clock.nanos = f.nanos

theorem Fields.resolve_of_denotes {f : Fields} {d : DateTime} (h : f.Denotes d) :
    f.resolve = .ok (d.plusMinutes (-f.offset)) := by
  obtain ⟨date, hour, minute, second, nanos, hhour, hminute, hsecond, hnanos⟩ := d
  obtain ⟨hyear, hdate, ⟨rfl, rfl⟩, hleap⟩ := h
  rw [resolve, if_pos hyear, Date.ofFields?_eq_some_iff.2 hdate]
  dsimp only at hleap ⊢
  split_ifs at hleap with hsixty
  · obtain ⟨rfl, rfl⟩ := hleap
    simp only [hsixty, if_true, hhour, hminute, hnanos]
    rfl
  · obtain ⟨rfl, rfl⟩ := hleap
    simp only [hsixty, if_false, hhour, hminute, hsecond, Nat.zero_add, hnanos]
    rfl

theorem Fields.exists_of_resolve {f : Fields} {d : DateTime} (h : f.resolve = .ok d) :
    ∃ e, f.Denotes e ∧ d = e.plusMinutes (-f.offset) := by
  unfold resolve at h
  split at h
  · next hyear =>
    split at h
    · cases h
    · next date hdate =>
      dsimp only at h
      by_cases hsixty : f.second = 60
      · simp only [hsixty, if_true] at h
        split at h
        · cases h
          exact ⟨_, ⟨hyear, Date.ofFields?_eq_some_iff.1 hdate, ⟨rfl, rfl⟩, by simp [hsixty]⟩, rfl⟩
        · cases h
      · simp only [hsixty, if_false] at h
        split at h
        · cases h
          exact ⟨_, ⟨hyear, Date.ofFields?_eq_some_iff.1 hdate, ⟨rfl, rfl⟩, by simp [hsixty]⟩, rfl⟩
        · cases h
  · cases h

/-- The fields of a date and time denote it, if a leap second follows second 59. -/
theorem denotes_fields {d : DateTime} (hyear : yearRange.1 ≤ d.date.year ∧ d.date.year ≤ yearRange.2)
    (hleap : d.clock.nanos < 1000000000 ∨ d.clock.second = 59) : d.fields.Denotes d where
  year_mem := hyear
  date := ⟨rfl, rfl, rfl⟩
  time := ⟨rfl, rfl⟩
  second := by
    have hsecond := d.clock.second_lt
    have hnanos := d.clock.nanos_mem
    show if d.clock.second + d.clock.nanos / 1000000000 = 60 then _ else _
    split_ifs
    · simp only [fields]
      omega
    · simp only [fields]
      omega

/-! ### The form of the grid -/

theorem toList_toGrid_eq_text (d : DateTime) : d.toGrid.toList = d.fields.text ' ' := d.toList_toGrid

/-- The dates and times that the grid's form has texts of: those of whole seconds, leap seconds after second 59
included, in the years that dates may have. -/
structure InGrid (d : DateTime) : Prop where
  year_mem : yearRange.1 ≤ d.date.year ∧ d.date.year ≤ yearRange.2
  nanos_eq : d.clock.nanos = 0 ∨ d.clock.second = 59 ∧ d.clock.nanos = 1000000000

/-- The year is written with four digits and no sign. -/
def FourDigits (d : DateTime) : Prop := 0 ≤ d.date.year ∧ d.date.year ≤ 9999

instance (d : DateTime) : Decidable d.FourDigits := inferInstanceAs (Decidable (_ ∧ _))

theorem FourDigits.mem_yearRange {d : DateTime} (h : d.FourDigits) :
    yearRange.1 ≤ d.date.year ∧ d.date.year ≤ yearRange.2 := by
  simp only [FourDigits, yearRange] at h ⊢
  omega

theorem FourDigits.natAbs_lt {d : DateTime} (h : d.FourDigits) : d.date.year.natAbs < 10 ^ 4 := by
  unfold FourDigits at h
  omega

/-- Items without a part of a second and without a distance from UTC leave both as they were. -/
theorem Item.kept_of_read {item : Item} (hfraction : item ≠ .fraction) (hoffset : item ≠ .offset) {start next : Fields}
    {cs rest : List Char} (h : item.read start cs = .ok (next, rest)) :
    next.nanos = start.nanos ∧ next.offset = start.offset := by
  have hstore {field : Field} {value : Int} (h : field.store value start = .ok next) :
      next.nanos = start.nanos ∧ next.offset = start.offset := by
    unfold Field.store at h
    split at h
    · cases h
      cases field <;> exact ⟨rfl, rfl⟩
    · cases h
  cases item with
  | loose field | strict field =>
    obtain ⟨⟨value, _⟩, -, h⟩ := Except.exists_of_bind_eq_ok h
    obtain ⟨stored, hstored, h⟩ := Except.exists_of_bind_eq_ok h
    cases h
    exact hstore hstored
  | mark allowed =>
    obtain ⟨_, -, h⟩ := Except.exists_of_bind_eq_ok h
    cases h
    exact ⟨rfl, rfl⟩
  | blanks =>
    cases h
    exact ⟨rfl, rfl⟩
  | fraction => exact absurd rfl hfraction
  | offset => exact absurd rfl hoffset

theorem kept_of_readItems : ∀ {items : List Item}, (∀ item ∈ items, item ≠ .fraction ∧ item ≠ .offset) →
    ∀ {start f : Fields} {cs : List Char}, readItems start items cs = .ok f →
      f.nanos = start.nanos ∧ f.offset = start.offset
  | [], _, _, _, [], h => by
    cases h
    exact ⟨rfl, rfl⟩
  | [], _, _, _, _ :: _, h => by cases h
  | item :: items, hitems, _, _, cs, h => by
    obtain ⟨hitem, hitems⟩ := List.forall_mem_cons.1 hitems
    obtain ⟨⟨next, rest⟩, hread, h⟩ := Except.exists_of_bind_eq_ok h
    obtain ⟨hnanos, hoffset⟩ := Item.kept_of_read hitem.1 hitem.2 hread
    obtain ⟨hnanos', hoffset'⟩ := kept_of_readItems hitems h
    exact ⟨hnanos'.trans hnanos, hoffset'.trans hoffset⟩

/-- What the grid's form reads has a text in it. -/
theorem inGrid_of_ofGrid {s : String} {d : DateTime} (h : ofGrid s = .ok d) : d.InGrid := by
  obtain ⟨f, hread, hresolve⟩ := Except.exists_of_bind_eq_ok h
  obtain ⟨hnanos, hoffset⟩ := kept_of_readItems (by decide) hread
  obtain ⟨e, he, rfl⟩ := Fields.exists_of_resolve hresolve
  have hzero : -f.offset = 0 := by rw [hoffset]; rfl
  rw [hzero, plusMinutes_zero]
  refine ⟨he.date.1 ▸ he.year_mem, ?_⟩
  have hsecond := he.second
  rw [hnanos] at hsecond
  split_ifs at hsecond
  · exact .inr hsecond
  · exact .inl hsecond.2

/-- What is written in the grid's form is read as the same date and time. -/
theorem InGrid.ofGrid_toGrid {d : DateTime} (h : d.InGrid) : ofGrid d.toGrid = .ok d := by
  have hf := inRange_fields h.year_mem
  have hleap : d.clock.nanos < 1000000000 ∨ d.clock.second = 59 := by
    rcases h.nanos_eq with hzero | ⟨hsecond, -⟩
    · exact .inl (hzero ▸ by decide)
    · exact .inr hsecond
  have hfields : { d.fields with nanos := 0, offset := 0 } = d.fields := by
    have hmod : d.clock.nanos % 1000000000 = 0 := by rcases h.nanos_eq with hzero | ⟨-, hleap⟩ <;> omega
    rw [fields, hmod]
  have hblank : ∀ start rest, dropBlanks rest = rest → Item.blanks.read start (' ' :: rest) = .ok (start, rest) := by
    intro start rest hrest
    show Except.ok (start, dropBlanks rest) = _
    rw [hrest]
  have hread : readItems {} gridPattern d.toGrid.toList = .ok d.fields := by
    have h := readItems_dateTimeItems hf (Item.readsNumbers_loose hf) (by decide) hblank {} [] stops_nil
    rw [List.append_nil, List.append_nil, ← toList_toGrid_eq_text, hfields] at h
    exact h
  rw [ofGrid, parse, hread]
  exact (Fields.resolve_of_denotes (denotes_fields h.year_mem hleap)).trans (congrArg _ d.plusMinutes_zero)

theorem toGrid_inj {d d' : DateTime} (h : d.InGrid) (h' : d'.InGrid) : d.toGrid = d'.toGrid ↔ d = d' := by
  refine ⟨fun heq => ?_, congrArg _⟩
  have hread := h.ofGrid_toGrid
  rw [heq, h'.ofGrid_toGrid] at hread
  exact (Except.ok.inj hread).symm

end DataGrid.DateTime
