import DataGrid.Proofs.Binary64.Shortest
import DataGrid.Proofs.DateTime.Forms

/-!
# Cells that hold dates

A date and time can be written in a cell in the form of the grid, with a `T`, or with a distance from UTC, in
which case date and time are those of the place. Each of these texts is read as that date and time again, if it
has room for the part of the second; the form of the grid has not (`ofCell?_toGrid`).
-/

namespace DataGrid.DateTime

open Item (padded)

/-! ### Parts of a second -/

/-- The text stands for so many nanoseconds: up to nine digits after a point, or nothing if there are none. -/
def Fraction (nanos : Nat) (text : List Char) : Prop :=
  nanos = 0 ∧ text = [] ∨
    ∃ digits, text = '.' :: digits ∧ digits ≠ [] ∧ digits.length ≤ 9 ∧ (∀ c ∈ digits, c.isDigit = true) ∧
      nanos = digitsNumber digits * 10 ^ (9 - digits.length)

theorem digitsNumber_lt {digits : List Char} (h : ∀ c ∈ digits, c.isDigit = true) :
    digitsNumber digits < 10 ^ digits.length := by
  have hlt := Binary64.ofDigitChars_lt 0 h
  rwa [Nat.zero_add, Nat.one_mul] at hlt

/-- All nine digits can be written. -/
theorem exists_fraction {nanos : Nat} (h : nanos < 1000000000) : ∃ text, Fraction nanos text := by
  have hlength : (padded 9 nanos).length = 9 := Item.length_padded (by decide) h
  refine ⟨'.' :: padded 9 nanos, .inr ⟨_, rfl, Item.padded_ne_nil 9 nanos, hlength.le, Item.isDigit_of_mem_padded, ?_⟩⟩
  rw [Item.digitsNumber_padded, hlength, Nat.sub_self, Nat.pow_zero, Nat.mul_one]

/-- A part of a second is read up to its end, where no point or digit may stand. -/
theorem Fraction.read {nanos : Nat} {text rest : List Char} (h : Fraction nanos text)
    (hrest : ∀ c ∈ rest.head?, c ≠ '.' ∧ c.isDigit = false) (start : Fields) (hstart : start.nanos = 0) :
    Item.fraction.read start (text ++ rest) = .ok ({ start with nanos }, rest) := by
  have hstops : Stops rest := fun c hc => (hrest c hc).2
  obtain ⟨rfl, rfl⟩ | ⟨digits, rfl, hne, hlength, hdigits, rfl⟩ := h
  · have hstart : { start with nanos := 0 } = start := by rw [← hstart]
    rw [List.nil_append, hstart]
    unfold Item.read
    dsimp only
    split
    · next hpoint => exact absurd rfl (hrest '.' (by simp)).1
    · rfl
  · have hread : readDigits 1 9 (digits ++ rest) = .ok (digits, rest) := by
      refine readDigits_append hdigits (List.length_pos_iff.2 hne) hlength (.inr hstops) ?_
      calc digitsNumber digits < 10 ^ digits.length := digitsNumber_lt hdigits
        _ ≤ 10 ^ 9 := Nat.pow_le_pow_right (by decide) hlength
        _ < 9223372036854775808 := by decide
    have hdrop : rest.dropWhile Char.isDigit = rest := by
      cases rest with
      | nil => rfl
      | cons c cs => simp [hstops c rfl]
    have hnanos : readNanos (digits ++ rest) = .ok (digitsNumber digits * 10 ^ (9 - digits.length), rest) := by
      rw [readNanos, hread]
      show Except.ok (_, rest.dropWhile Char.isDigit) = _
      rw [hdrop]
      rfl
    rw [List.cons_append, Item.read, hnanos]
    rfl

/-! ### Distances from UTC -/

/-- Minutes as hours and minutes. -/
def hourMinute (n : Nat) : List Char := padded 2 (n / 60) ++ ':' :: padded 2 (n % 60)

/-- The text stands for so many minutes of distance from UTC; there is a letter for none. -/
def Distance (minutes : Int) (text : List Char) : Prop :=
  minutes = 0 ∧ (text = ['Z'] ∨ text = ['z']) ∨
    ∃ sign : Char, (0 ≤ minutes ∧ sign = '+' ∨ minutes ≤ 0 ∧ (sign = '-' ∨ sign = '−')) ∧
      text = sign :: hourMinute minutes.natAbs

theorem readDigits_padded {n : Nat} (h : n < 100) (rest : List Char) :
    readDigits 2 2 (padded 2 n ++ rest) = .ok (padded 2 n, rest) := by
  have hlength := Item.length_padded (by decide : 0 < 2) h
  refine readDigits_append Item.isDigit_of_mem_padded hlength.ge hlength.le (.inl hlength) ?_
  rw [Item.digitsNumber_padded]
  omega

theorem readOffset_hourMinute {n : Nat} (h : n < 1440) (sign : Int) :
    readOffset sign (hourMinute n) = .ok (sign * n, []) := by
  have hhours : n / 60 < 24 := by omega
  have hminutes : n % 60 < 60 := Nat.mod_lt n (by decide)
  have hvalue : 60 * ((n / 60 : Nat) : Int) + ((n % 60 : Nat) : Int) = n := by omega
  have hread := readDigits_padded (Nat.lt_trans hminutes (by decide)) []
  rw [List.append_nil] at hread
  simp only [readOffset, hourMinute, readDigits_padded (Nat.lt_trans hhours (by decide)), bind, Except.bind, readMark,
    List.mem_singleton, if_true, hread, Item.digitsNumber_padded, hhours, hminutes, hvalue, and_self]
  rfl

theorem exists_distance (minutes : Int) : ∃ text, Distance minutes text := by
  rcases Int.le_total 0 minutes with hpositive | hnegative
  · exact ⟨_, .inr ⟨'+', .inl ⟨hpositive, rfl⟩, rfl⟩⟩
  · exact ⟨_, .inr ⟨'-', .inr ⟨hnegative, .inl rfl⟩, rfl⟩⟩

namespace Distance

variable {minutes : Int} {text : List Char}

theorem read (h : Distance minutes text) (hday : minutes.natAbs < 1440) (start : Fields) :
    Item.offset.read start text = .ok ({ start with offset := minutes }, []) := by
  obtain ⟨rfl, rfl | rfl⟩ | ⟨sign, hsign, rfl⟩ := h
  · rfl
  · rfl
  have hvalue : (if sign = '+' then 1 else -1) * (minutes.natAbs : Int) = minutes := by
    obtain ⟨hpositive, rfl⟩ | ⟨hnegative, rfl | rfl⟩ := hsign
    · rw [if_pos rfl]
      omega
    · rw [if_neg (by decide)]
      omega
    · rw [if_neg (by decide)]
      omega
  have hstep : Item.offset.read start (sign :: hourMinute minutes.natAbs) =
      (readOffset (if sign = '+' then 1 else -1) (hourMinute minutes.natAbs)).map
        fun read => ({ start with offset := read.1 }, read.2) := by
    obtain ⟨-, rfl⟩ | ⟨-, rfl | rfl⟩ := hsign <;> rfl
  rw [hstep, readOffset_hourMinute hday, hvalue]
  rfl

/-- A distance from UTC begins with no point and no digit. -/
theorem head (h : Distance minutes text) : ∀ c ∈ text.head?, c ≠ '.' ∧ c.isDigit = false := by
  obtain ⟨-, rfl | rfl⟩ | ⟨sign, hsign, rfl⟩ := h
  · rintro _ ⟨⟩
    decide
  · rintro _ ⟨⟩
    decide
  · obtain ⟨-, rfl⟩ | ⟨-, rfl | rfl⟩ := hsign <;> rintro _ ⟨⟩ <;> decide

end Distance

/-! ### Spellings -/

/-- The spelling with a `T`. -/
def localText (d : DateTime) (part : List Char) : String := String.ofList (d.fields.text 'T' ++ part)

/-- The spelling with a distance from UTC. -/
def zonedText (d : DateTime) (separator : Char) (part distance : List Char) : String :=
  String.ofList (d.fields.text separator ++ (part ++ distance))

/-- The date and time without the part of its second. -/
def wholeSecond (d : DateTime) : DateTime := { d with clock := { d.clock with nanos := 0, nanos_mem := by decide } }

section
variable {d : DateTime} {part : List Char}

theorem wholeSecond_eq_iff : d.wholeSecond = d ↔ d.clock.nanos = 0 := by
  refine ⟨fun h => (congrArg (·.clock.nanos) h).symm, fun h => ?_⟩
  obtain ⟨date, hour, minute, second, nanos, _, _, _, _⟩ := d
  obtain rfl : nanos = 0 := h
  rfl

theorem nanos_fields (hnanos : d.clock.nanos < 1000000000) : d.fields.nanos = d.clock.nanos :=
  Nat.mod_eq_of_lt hnanos

/-- What is read of a date, a separator, a time of day and the part of a second. -/
theorem readItems_part {number : Field → Item} {separator : Item} (hf : d.fields.InRange)
    (hnumber : Item.ReadsNumbers number d.fields) {c : Char} (hdigit : c.isDigit = false)
    (hseparator : ∀ start rest, dropBlanks rest = rest → separator.read start (c :: rest) = .ok (start, rest))
    (hnanos : d.clock.nanos < 1000000000) (hpart : Fraction d.clock.nanos part) (items : List Item) (rest : List Char)
    (hrest : ∀ c ∈ rest.head?, c ≠ '.' ∧ c.isDigit = false) :
    readItems {} (dateTimeItems number separator ++ .fraction :: items) (d.fields.text c ++ (part ++ rest)) =
      readItems d.fields items rest := by
  have hstops : Stops (part ++ rest) := by
    obtain ⟨-, rfl⟩ | ⟨digits, rfl, -⟩ := hpart
    · exact fun c hc => (hrest c hc).2
    · exact stops_cons rfl
  rw [readItems_dateTimeItems hf hnumber hdigit hseparator {} _ hstops,
    readItems_cons (hpart.read hrest { d.fields with nanos := 0, offset := 0 } rfl)]
  congr 1
  rw [← nanos_fields hnanos]
  rfl

theorem ofCell?_localText (hnanos : d.clock.nanos < 1000000000) (hyear : d.FourDigits)
    (hpart : Fraction d.clock.nanos part) : ofCell? (d.localText part) = some d := by
  have hf := inRange_fields hyear.mem_yearRange
  have hmark : ∀ start rest, dropBlanks rest = rest → (Item.mark ['T']).read start ('T' :: rest) = .ok (start, rest) :=
    fun _ _ _ => Item.read_mark (by decide)
  have hread : readItems {} localPattern (d.fields.text 'T' ++ part) = .ok d.fields := by
    have h := readItems_part hf (Item.readsNumbers_loose hf) rfl hmark hnanos hpart [] [] nofun
    rwa [List.append_nil] at h
  refine ofCell?_eq_some_iff.2 ⟨localPattern, by decide, ?_⟩
  rw [parse, localText, String.toList_ofList, hread]
  exact (Fields.resolve_of_denotes (denotes_fields hyear.mem_yearRange (.inl hnanos))).trans
    (congrArg _ d.plusMinutes_zero)

theorem ofCell?_zonedText {offset : Int} (hnanos : d.clock.nanos < 1000000000) (hday : offset.natAbs < 1440)
    (hyear : (d.plusMinutes offset).FourDigits) (hpart : Fraction d.clock.nanos part) {distance : List Char}
    (hdistance : Distance offset distance) {separator : Char} (hseparator : separator ∈ ['T', 't', ' ']) :
    ofCell? ((d.plusMinutes offset).zonedText separator part distance) = some d := by
  have hf := inRange_fields hyear.mem_yearRange
  have hdigit : separator.isDigit = false := by
    simp only [List.mem_cons, List.not_mem_nil, or_false] at hseparator
    rcases hseparator with rfl | rfl | rfl <;> rfl
  have hmark : ∀ start rest, dropBlanks rest = rest →
      (Item.mark ['T', 't', ' ']).read start (separator :: rest) = .ok (start, rest) :=
    fun _ _ _ => Item.read_mark hseparator
  have hread : readItems {} zonedPattern
      ((d.plusMinutes offset).fields.text separator ++ (part ++ distance)) =
        .ok { (d.plusMinutes offset).fields with offset } := by
    have h := readItems_part hf (Item.readsNumbers_strict hf hyear) hdigit hmark hnanos hpart [.offset] distance
      hdistance.head
    rw [readItems_cons (hdistance.read hday _)] at h
    exact h
  have hdenotes := denotes_fields hyear.mem_yearRange (.inl hnanos)
  have hplace : Fields.Denotes { (d.plusMinutes offset).fields with offset } (d.plusMinutes offset) :=
    ⟨hdenotes.year_mem, hdenotes.date, hdenotes.time, hdenotes.second⟩
  refine ofCell?_eq_some_iff.2 ⟨zonedPattern, by decide, ?_⟩
  rw [parse, zonedText, String.toList_ofList, hread]
  exact (Fields.resolve_of_denotes hplace).trans (congrArg _ (d.plusMinutes_neg offset))

/-- The grid's form has no room for the part of a second. -/
theorem ofCell?_toGrid (hnanos : d.clock.nanos < 1000000000) (hyear : d.FourDigits) :
    ofCell? d.toGrid = some d.wholeSecond := by
  have hsame : d.wholeSecond.toGrid = d.toGrid := by
    have hnone : d.clock.nanos / 1000000000 = 0 := Nat.div_eq_of_lt hnanos
    rw [← String.toList_inj, toList_toGrid, toList_toGrid]
    simp [restOf, wholeSecond, hnone]
  have hgrid : d.wholeSecond.InGrid := ⟨hyear.mem_yearRange, .inl rfl⟩
  rw [← hsame]
  exact ofCell?_eq_some_iff.2 ⟨gridPattern, by decide, hgrid.ofGrid_toGrid⟩

/-- Cells are read in one way. No text has two of the forms, so that the order in which they are tried does not
matter. A date and time of a year with four digits that is no leap second is read from its spellings with a `T` and,
for each distance from UTC under a day, from its spellings in a place that is so far away, if the year there has four
digits too; the spelling in the grid's form is read as the whole second. -/
theorem ofCell?_unambiguous :
    (∀ text, ∀ p ∈ cellPatterns, ∀ q ∈ cellPatterns, ∀ d e, parse p text = .ok d → parse q text = .ok e → p = q) ∧
    (∀ patterns : List (List Item), patterns.Perm cellPatterns → ∀ text,
      patterns.findSome? (fun items => (parse items text).toOption) = ofCell? text) ∧
    ∀ d : DateTime, d.clock.nanos < 1000000000 → d.FourDigits →
      ofCell? d.toGrid = some d.wholeSecond ∧ (ofCell? d.toGrid = some d ↔ d.clock.nanos = 0) ∧
      (∃ part, Fraction d.clock.nanos part) ∧
      ∀ part, Fraction d.clock.nanos part →
        ofCell? (d.localText part) = some d ∧
        ∀ offset : Int, offset.natAbs < 1440 → (d.plusMinutes offset).FourDigits →
          (d.plusMinutes offset).minutes = d.minutes + offset ∧ (∃ distance, Distance offset distance) ∧
          ∀ distance, Distance offset distance → ∀ separator ∈ ['T', 't', ' '],
            ofCell? ((d.plusMinutes offset).zonedText separator part distance) = some d := by
  refine ⟨fun text p hp q hq d e h h' => eq_of_parse hp hq h h', fun _ h _ => findSome?_eq_ofCell? h _, ?_⟩
  intro d hnanos hyear
  have hgrid := ofCell?_toGrid hnanos hyear
  refine ⟨hgrid, ?_, exists_fraction hnanos, fun part hpart => ⟨ofCell?_localText hnanos hyear hpart, ?_⟩⟩
  · rw [hgrid, Option.some_inj, wholeSecond_eq_iff]
  intro offset hday hplace
  refine ⟨d.minutes_plusMinutes offset, exists_distance offset, fun distance hdistance separator hseparator => ?_⟩
  exact ofCell?_zonedText hnanos hday hplace hpart hdistance hseparator

/-- New Year comes earlier in the east, with the same part of a second. -/
theorem ofCell?_unambiguous_newYear :
    ∃ d : DateTime, ofCell? "2023-12-31 23:30:59" = some d.wholeSecond ∧
      ofCell? "2023-12-31T23:30:59.5" = some d ∧ ofCell? "2024-01-01t01:00:59.5+01:30" = some d ∧
      (parse datePattern "2023-12-31 23:30:59" = .ok d → datePattern = gridPattern) ∧
      [datePattern, zonedPattern, localPattern, gridPattern].findSome?
        (fun items => (parse items "2023-12-31T23:30:59.5").toOption) = ofCell? "2023-12-31T23:30:59.5" := by
  let d : DateTime := ⟨⟨2023, 12, 31, by decide, by decide⟩,
    ⟨23, 30, 59, 500000000, by decide, by decide, by decide, by decide⟩⟩
  have hgridText : d.toGrid = "2023-12-31 23:30:59" := by decide +kernel
  have hlocalText : d.localText ['.', '5'] = "2023-12-31T23:30:59.5" := by decide +kernel
  have hzonedText : (d.plusMinutes 90).zonedText 't' ['.', '5'] ['+', '0', '1', ':', '3', '0'] =
      "2024-01-01t01:00:59.5+01:30" := by decide +kernel
  have hpart : Fraction d.clock.nanos ['.', '5'] :=
    .inr ⟨['5'], rfl, by decide, by decide, List.forall_mem_singleton.2 rfl, by decide⟩
  have hdistance : Distance 90 ['+', '0', '1', ':', '3', '0'] := .inr ⟨'+', by decide⟩
  obtain ⟨hone, horder, hread⟩ := ofCell?_unambiguous
  obtain ⟨hgrid, -, -, hparts⟩ := hread d (by decide) (by decide)
  have hlocal := (hparts _ hpart).1
  have hzoned := ((hparts _ hpart).2 90 (by decide) (by decide +kernel)).2.2 _ hdistance 't' (by decide)
  rw [hgridText] at hgrid
  rw [hlocalText] at hlocal
  rw [hzonedText] at hzoned
  have hgridRead : parse gridPattern "2023-12-31 23:30:59" = .ok d.wholeSecond := by decide +kernel
  exact ⟨d, hgrid, hlocal, hzoned, fun h => hone _ _ (by decide) _ (by decide) _ _ h hgridRead, horder _ (by decide) _⟩

/-- Half a second past is written in the grid's form as the second itself, and read so. -/
theorem not_ofCell?_toGrid :
    let d : DateTime := ⟨⟨2024, 1, 15, by decide, by decide⟩,
      ⟨10, 30, 0, 500000000, by decide, by decide, by decide, by decide⟩⟩
    d.clock.nanos < 1000000000 ∧ d.FourDigits ∧ (d.plusMinutes 0).FourDigits ∧
      d.toGrid = "2024-01-15 10:30:00" ∧ ofCell? d.toGrid = some d.wholeSecond ∧ ofCell? d.toGrid ≠ some d := by
  decide +kernel

end

end DataGrid.DateTime
