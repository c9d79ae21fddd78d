import DataGrid.DateTime
import Mathlib.Algebra.Ring.Nat
import Mathlib.Logic.Function.Iterate
import Mathlib.Tactic.SplitIfs

/-!
# The calendar as a count of days

Days are numbered, and the day after another one has the next number, also where the month or the year ends
(`number_next`). Going on and back in days or minutes undo each other, so a distance from UTC can be added and
taken away (`plusMinutes_neg`).
-/

namespace DataGrid

namespace Date

/-- The days of the year before a month. -/
def daysBefore (year : Int) (month : Nat) : Nat := ((List.range' 1 (month - 1)).map (daysInMonth year)).sum

/-- The number of a day; that of the first day of year 1 is 1. Every fourth year is a leap year, but of the
hundredth years only every fourth. -/
def number (d : Date) : Int :=
  365 * (d.year - 1) + (d.year - 1) / 4 - (d.year - 1) / 100 + (d.year - 1) / 400 + daysBefore d.year d.month + d.day

theorem daysBefore_succ (year : Int) {month : Nat} (h : 1 ≤ month) :
    daysBefore year (month + 1) = daysBefore year month + daysInMonth year month := by
  obtain ⟨n, rfl⟩ := Nat.exists_eq_add_of_le' h
  simp [daysBefore, List.range'_concat, Nat.add_comm]

theorem daysBefore_december (year : Int) : daysBefore year 12 = 306 + daysInMonth year 2 := by
  simp only [daysBefore, List.range', List.map_cons, List.map_nil, List.sum_cons, List.sum_nil]
  simp [daysInMonth]
  omega

theorem daysInMonth_february (year : Int) : daysInMonth year 2 = if isLeapYear year then 29 else 28 := rfl

/-- A leap year is one day longer, and so is the count of days in the years up to it. -/
theorem years_succ (year : Int) : 365 * year + year / 4 - year / 100 + year / 400 =
    365 * (year - 1) + (year - 1) / 4 - (year - 1) / 100 + (year - 1) / 400 + 337 + daysInMonth year 2 := by
  have hleap : isLeapYear year = true ↔ year % 4 = 0 ∧ (year % 100 ≠ 0 ∨ year % 400 = 0) := by simp [isLeapYear]
  rw [daysInMonth_february]
  split_ifs with h
  · have := hleap.1 h
    omega
  · have := mt hleap.2 h
    omega

theorem number_next (d : Date) : d.next.number = d.number + 1 := by
  obtain ⟨year, month, day, hmonth, hday⟩ := d
  unfold next
  dsimp only
  split
  · simp only [number]
    omega
  · next hlast =>
    split
    · next hmore =>
      simp only [number, daysBefore_succ year hmonth.1]
      omega
    · next hdecember =>
      obtain rfl : month = 12 := by omega
      have hdays : daysInMonth year 12 = 31 := rfl
      have hyears := years_succ year
      have hjanuary : daysBefore (year + 1) 1 = 0 := rfl
      simp only [number, daysBefore_december, hjanuary, Int.add_sub_cancel]
      omega

theorem daysInMonth_le (year : Int) (month : Nat) : daysInMonth year month ≤ 31 := by
  unfold daysInMonth
  split_ifs <;> decide

theorem ofFields?_eq_some_iff {year : Int} {month day : Nat} {d : Date} :
    ofFields? year month day = some d ↔ year = d.year ∧ month = d.month ∧ day = d.day := by
  unfold ofFields?
  constructor
  · intro h
    split at h
    · cases h
      exact ⟨rfl, rfl, rfl⟩
    · cases h
  · rintro ⟨rfl, rfl, rfl⟩
    rw [dif_pos ⟨d.month_mem, d.day_mem⟩]

/-! ### Going on and back -/

theorem previous_next (d : Date) : d.next.previous = d := by
  obtain ⟨year, month, day, hmonth, hday⟩ := d
  unfold next
  dsimp only
  split
  · simp [previous, show 1 < day + 1 by omega]
  · next hlast =>
    obtain rfl : day = daysInMonth year month := by omega
    split
    · simp [previous, show 1 < month + 1 by omega]
    · obtain rfl : month = 12 := by omega
      have hdays : daysInMonth year 12 = 31 := rfl
      simp [previous, hdays]

theorem next_previous (d : Date) : d.previous.next = d := by
  obtain ⟨year, month, day, hmonth, hday⟩ := d
  unfold previous
  dsimp only
  split
  · next hlater =>
    have hback : day - 1 + 1 = day := by omega
    simp [next, hback, show day - 1 < daysInMonth year month by omega]
  · obtain rfl : day = 1 := by omega
    split
    · next hlater =>
      have hback : month - 1 + 1 = month := by omega
      simp [next, hback, show month - 1 < 12 by omega]
    · obtain rfl : month = 1 := by omega
      have hdays : daysInMonth (year - 1) 12 = 31 := rfl
      simp [next, hdays]

theorem number_previous (d : Date) : d.previous.number = d.number - 1 := by
  have h := number_next d.previous
  rw [next_previous] at h
  omega

theorem repeat_eq_iterate {α : Type} (f : α → α) (n : Nat) (a : α) : Nat.repeat f n a = f^[n] a := by
  induction n with
  | zero => rfl
  | succ n ih => rw [Nat.repeat, ih, Function.iterate_succ_apply']

theorem number_plusDays (d : Date) (days : Int) : (d.plusDays days).number = d.number + days := by
  have hrepeat {step : Date → Date} {k : Int} (hstep : ∀ d, (step d).number = d.number + k) (n : Nat) :
      (Nat.repeat step n d).number = d.number + n * k := by
    induction n with
    | zero => simp [Nat.repeat]
    | succ n ih =>
      rw [Nat.repeat, hstep, ih, Int.natCast_succ, Int.add_mul, Int.one_mul, Int.add_assoc]
  cases days with
  | ofNat n =>
    rw [plusDays, hrepeat number_next, Int.mul_one]
    rfl
  | negSucc n =>
    rw [plusDays, hrepeat (k := -1) fun d => number_previous d]
    omega

theorem plusDays_neg (d : Date) (days : Int) : (d.plusDays days).plusDays (-days) = d := by
  cases days with
  | ofNat n =>
    cases n with
    | zero => rfl
    | succ n =>
      show Nat.repeat previous (n + 1) (Nat.repeat next (n + 1) d) = d
      rw [repeat_eq_iterate, repeat_eq_iterate]
      exact Function.LeftInverse.iterate previous_next (n + 1) d
  | negSucc n =>
    show Nat.repeat next (n + 1) (Nat.repeat previous (n + 1) d) = d
    rw [repeat_eq_iterate, repeat_eq_iterate]
    exact Function.LeftInverse.iterate next_previous (n + 1) d

end Date

namespace DateTime

/-- The minutes up to a date and time, counted from the start of the calendar. -/
def minutes (d : DateTime) : Int := 1440 * d.date.number + d.clock.minutes

theorem minutes_lt (t : Clock) : t.minutes < 1440 := by
  have := t.hour_lt
  have := t.minute_lt
  unfold Clock.minutes
  omega

theorem minutes_plusMinutes (d : DateTime) (k : Int) : (d.plusMinutes k).minutes = d.minutes + k := by
  simp only [minutes, plusMinutes, Date.number_plusDays]
  simp only [Clock.minutes]
  omega

/-- The place on the clock is kept modulo a day. -/
theorem clock_minutes_plusMinutes (d : DateTime) (k : Int) :
    ((d.plusMinutes k).clock.minutes : Int) = (d.clock.minutes + k) % 1440 := by
  simp only [plusMinutes, Clock.minutes]
  omega

theorem eq_of_minutes {d e : DateTime} (hdate : d.date = e.date) (hminutes : d.clock.minutes = e.clock.minutes)
    (hsecond : d.clock.second = e.clock.second) (hnanos : d.clock.nanos = e.clock.nanos) : d = e := by
  obtain ⟨date, hour, minute, second, nanos, hhour, hminute, _, _⟩ := d
  obtain ⟨date', hour', minute', second', nanos', hhour', hminute', _, _⟩ := e
  simp only [Clock.minutes] at hdate hminutes hsecond hnanos
  obtain rfl : hour = hour' := by omega
  obtain rfl : minute = minute' := by omega
  subst hdate hsecond hnanos
  rfl

theorem plusMinutes_neg (d : DateTime) (k : Int) : (d.plusMinutes k).plusMinutes (-k) = d := by
  have hclock := clock_minutes_plusMinutes d k
  have hminutes := minutes_lt d.clock
  refine eq_of_minutes ?_ ?_ rfl rfl
  · -- as many days are gone back as were gone on
    have hdays : ((d.plusMinutes k).clock.minutes + -k) / 1440 = -((d.clock.minutes + k) / 1440) := by omega
    show (d.date.plusDays ((d.clock.minutes + k) / 1440)).plusDays
      (((d.plusMinutes k).clock.minutes + -k) / 1440) = d.date
    rw [hdays, Date.plusDays_neg]
  · have hback := clock_minutes_plusMinutes (d.plusMinutes k) (-k)
    omega

theorem plusMinutes_zero (d : DateTime) : d.plusMinutes 0 = d := by
  have hminutes := minutes_lt d.clock
  have hclock := clock_minutes_plusMinutes d 0
  refine eq_of_minutes ?_ (by omega) rfl rfl
  have hdays : ((d.clock.minutes : Int) + 0) / 1440 = 0 := by omega
  show d.date.plusDays ((d.clock.minutes + 0) / 1440) = d.date
  rw [hdays]
  rfl

end DateTime

end DataGrid
