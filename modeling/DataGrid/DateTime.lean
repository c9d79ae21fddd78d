/-!
# Dates and times

Dates of the Gregorian calendar, extended to all years, and times of day without a zone. A leap
second is second 59 with a billion nanoseconds or more, so that it comes after second 59.
-/

namespace DataGrid

def isLeapYear (year : Int) : Bool := year % 4 = 0 && (year % 100 ≠ 0 || year % 400 = 0)

def daysInMonth (year : Int) (month : Nat) : Nat :=
  if month = 2 then if isLeapYear year then 29 else 28
  else if month = 4 ∨ month = 6 ∨ month = 9 ∨ month = 11 then 30
  else 31

theorem daysInMonth_pos (year : Int) (month : Nat) : 1 ≤ daysInMonth year month := by
  unfold daysInMonth
  split
  · split <;> decide
  · split <;> decide

/-- A day of the calendar. -/
structure Date where
  year : Int
  month : Nat
  day : Nat
  month_mem : 1 ≤ month ∧ month ≤ 12
  day_mem : 1 ≤ day ∧ day ≤ daysInMonth year month
deriving DecidableEq

namespace Date

def ofFields? (year : Int) (month day : Nat) : Option Date :=
  if h : (1 ≤ month ∧ month ≤ 12) ∧ 1 ≤ day ∧ day ≤ daysInMonth year month then
    some ⟨year, month, day, h.1, h.2⟩
  else
    none

def next (d : Date) : Date :=
  if h : d.day < daysInMonth d.year d.month then
    ⟨d.year, d.month, d.day + 1, d.month_mem, by omega⟩
  else if h : d.month < 12 then
    ⟨d.year, d.month + 1, 1, by omega, Nat.le_refl 1, daysInMonth_pos _ _⟩
  else
    ⟨d.year + 1, 1, 1, by decide, Nat.le_refl 1, daysInMonth_pos _ _⟩

def previous (d : Date) : Date :=
  if h : 1 < d.day then
    ⟨d.year, d.month, d.day - 1, d.month_mem, by have := d.day_mem; omega⟩
  else if h : 1 < d.month then
    ⟨d.year, d.month - 1, daysInMonth d.year (d.month - 1), by have := d.month_mem; omega,
      daysInMonth_pos _ _, Nat.le_refl _⟩
  else
    ⟨d.year - 1, 12, 31, by decide, by decide, Nat.le_refl 31⟩

/-- The day so many days later, or earlier. -/
def plusDays (d : Date) : Int → Date
  | .ofNat n => Nat.repeat next n d
  | .negSucc n => Nat.repeat previous (n + 1) d

end Date

/-- A time of day. -/
structure Clock where
  hour : Nat
  minute : Nat
  second : Nat
  nanos : Nat
  hour_lt : hour < 24
  minute_lt : minute < 60
  second_lt : second < 60
  /-- A billion nanoseconds or more stand for a leap second. -/
  nanos_mem : nanos < 2000000000
deriving DecidableEq

/-- The minute of the day. -/
def Clock.minutes (t : Clock) : Nat := 60 * t.hour + t.minute

structure DateTime where
  date : Date
  clock : Clock
deriving DecidableEq

namespace DateTime

/-- The parts of a date and time, the weightiest first. -/
def key (d : DateTime) : List Int :=
  [d.date.year, d.date.month, d.date.day, d.clock.hour, d.clock.minute, d.clock.second,
    d.clock.nanos]

/-- Chronological order. -/
instance : Ord DateTime := ⟨fun a b => compare a.key b.key⟩

/-- The same place on the clock so many minutes later, or earlier; seconds stay as they are. -/
def plusMinutes (d : DateTime) (minutes : Int) : DateTime :=
  let total := d.clock.minutes + minutes
  ⟨d.date.plusDays (total / 1440),
    { d.clock with
      hour := (total % 1440 / 60).toNat
      minute := (total % 60).toNat
      hour_lt := by omega
      minute_lt := by omega }⟩

end DateTime

end DataGrid
