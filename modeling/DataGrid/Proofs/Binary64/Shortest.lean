import DataGrid.Binary64.Shortest
import DataGrid.Proofs.Binary64.Rounding

/-!
# The shortest decimal reads back

The shortest decimal of a number lies between the borders of the number's pattern, and is therefore rounded to
it (`Finite.exists_shortest`). It has no more digits than 64 bits hold, since on the next coarser grid the number
would have had a decimal otherwise.
-/

namespace DataGrid.Binary64

open DataGrid.Binary64.Finite

/-- The pattern nearest to `digits * 10 ^ exponent`. -/
def decimalPattern (digits : Nat) (exponent : Int) : Nat :=
  roundedPattern (digits * 10 ^ exponent.toNat) (10 ^ (-exponent).toNat)

/-! ### The interval of a number -/

namespace Finite

section
variable {x : Finite} {p : Nat}

theorem mantissa_eq {shift m : Nat} (hp : x.pattern = shift * leadingBit + m) (hle : leadingBit ≤ m)
    (hlt : m < 2 * leadingBit) : x.mantissa = m ∧ x.shift = shift := by
  have hunits : x.mantissa * 2 ^ x.shift = m * 2 ^ shift := by
    rw [← patternUnits_add hle hlt.le, ← hp]
    rfl
  have hgap : 2 ^ x.shift = 2 ^ shift := by
    exact (congrArg gap hp).trans (gap_add hle hlt)
  rw [hgap] at hunits
  exact ⟨Nat.eq_of_mul_eq_mul_right (Nat.two_pow_pos _) hunits, Nat.pow_right_injective (le_refl 2) hgap⟩

theorem mantissa_of_lt (hp : x.pattern < leadingBit) : x.mantissa = x.pattern ∧ x.shift = 0 := by
  rw [mantissa, if_pos hp, shift, Nat.div_eq_of_lt hp]
  exact ⟨rfl, rfl⟩

theorem interval_middle : x.interval.middle = 4 * patternUnits x.pattern := by
  rw [interval, ← units_eq, units, Nat.mul_assoc]

theorem interval_high : x.interval.high = 2 * border x.pattern := by
  rw [border_eq, ← units_eq, units]
  show (4 * x.mantissa + 2) * 2 ^ x.shift = 2 * (2 * (x.mantissa * 2 ^ x.shift) + 2 ^ x.shift)
  ring

/-- The lower half of the interval is as wide as the gap below the number. -/
theorem lower_width (hp : x.pattern = p + 1) :
    (if x.mantissa = leadingBit ∧ 0 < x.shift then 1 else 2) * 2 ^ x.shift = 2 * gap p := by
  rcases lt_or_exists_mantissa x.pattern with hlt | ⟨shift, m, hle, hlt, hsplit⟩
  · rw [(mantissa_of_lt hlt).2, gap_of_lt (by omega), if_neg (by omega)]
    rfl
  · obtain ⟨hmantissa, hshift⟩ := mantissa_eq hsplit hle hlt
    rw [hmantissa, hshift]
    split
    · next hlowest =>
      obtain ⟨rfl, hpos⟩ := hlowest
      obtain ⟨k, rfl⟩ := Nat.exists_eq_add_of_lt hpos
      have hbelow : p = (0 + k) * leadingBit + (2 * leadingBit - 1) := by
        have := leadingBit_pos
        rw [Nat.add_mul] at hsplit
        omega
      rw [hbelow, gap_add (by have := leadingBit_pos; omega) (by have := leadingBit_pos; omega), Nat.pow_succ]
      omega
    · rw [gap_pred (hp.symm.trans hsplit) hlt.le (by omega)]

theorem interval_low (hp : x.pattern = p + 1) : x.interval.low = 2 * border p := by
  have hborder : 2 * border p = 4 * (x.mantissa * 2 ^ x.shift) - 2 * gap p := by
    have := border_add_gap p
    rw [← hp, ← units_eq, units] at this
    show _ = 4 * (x.mantissa * Nat.pow 2 x.shift) - _
    omega
  have hlow : x.interval.low =
      4 * (x.mantissa * 2 ^ x.shift) - (if x.mantissa = leadingBit ∧ 0 < x.shift then 1 else 2) * 2 ^ x.shift := by
    rw [interval, ← Nat.mul_assoc, ← Nat.sub_mul]
    rfl
  rw [hborder, hlow, lower_width hp]

theorem interval_closed : x.interval.closed = decide (x.pattern % 2 = 0) := by
  rw [interval]
  rcases lt_or_exists_mantissa x.pattern with hlt | ⟨shift, m, hle, hlt, hsplit⟩
  · rw [(mantissa_of_lt hlt).1]
  · rw [(mantissa_eq hsplit hle hlt).1, hsplit, mod_two_shift]

/-- The interval is as wide as the gaps on both sides of the number. -/
theorem interval_width (hp : x.pattern = p + 1) : x.interval.low + 2 * (gap p + gap (p + 1)) = x.interval.high := by
  have hsum := border_add_gap p
  rw [interval_low hp, interval_high, hp, border_eq (p + 1)]
  omega

theorem low_lt_middle (hx : x.pattern ≠ 0) : x.interval.low < x.interval.middle := by
  obtain ⟨p, hp⟩ := Nat.exists_eq_succ_of_ne_zero hx
  have hsum := border_add_gap p
  have hgap := gap_pos p
  rw [interval_low hp, interval_middle, hp, Nat.succ_eq_add_one]
  omega

theorem middle_lt_high : x.interval.middle < x.interval.high := by
  have hgap := gap_pos x.pattern
  rw [interval_middle, interval_high, border_eq]
  omega

theorem high_lt_two_mul_middle (hx : x.pattern ≠ 0) : x.interval.high < 2 * x.interval.middle := by
  have hgap : gap x.pattern ≤ patternUnits x.pattern := by
    rcases Nat.lt_or_ge x.pattern leadingBit with hlt | hge
    · rw [gap_of_lt (by omega), patternUnits_of_lt hlt]
      omega
    · exact (Nat.le_mul_of_pos_left _ leadingBit_pos).trans (mul_gap_le hge)
  rw [interval_middle, interval_high, border_eq]
  have hpos := gap_pos x.pattern
  omega

/-- A decimal in the interval is rounded to the number. -/
theorem roundedPattern_of_holds {digits power scale : Nat} (hx : x.pattern ≠ 0) (hscale : 0 < scale)
    (h : x.interval.holds scale (digits * (power * (4 * denominator))) = true) :
    roundedPattern (digits * power) scale = x.pattern := by
  obtain ⟨p, hp⟩ := Nat.exists_eq_succ_of_ne_zero hx
  have hupper := roundedPattern_le_iff (p := x.pattern) (digits * power) hscale
  have hlower := roundedPattern_le_iff (p := p) (digits * power) hscale
  have hpoint : digits * (power * (4 * denominator)) = 2 * (2 * (digits * power * denominator)) := by
    generalize denominator = units
    ring
  have hdouble (a : Nat) : 2 * a * scale = 2 * (a * scale) := Nat.mul_assoc ..
  rw [Interval.holds, interval_closed, interval_low hp, interval_high, hpoint, hdouble, hdouble] at h
  generalize digits * power * denominator = scaled at h hupper hlower
  by_cases heven : x.pattern % 2 = 0
  · simp [heven] at h
    omega
  · simp [heven] at h
    omega

end

end Finite

/-! ### Grids -/

section
variable {i : Interval} {tie : Tie} {exponent : Int} {digits : Nat}

theorem Interval.holds_of_onGrid (h : i.onGrid tie exponent = some digits) :
    i.holds (10 ^ (-exponent).toNat) (digits * (10 ^ exponent.toNat * (4 * denominator))) = true := by
  unfold onGrid at h
  -- The kernel is not to see how large the unit is.
  obtain ⟨unit, hunit⟩ : ∃ unit, 4 * denominator = unit := ⟨_, rfl⟩
  rw [hunit] at h ⊢
  dsimp only at h
  split at h
  · cases h
  · next hbelow _ =>
    cases h
    exact hbelow
  · next _ habove =>
    cases h
    exact habove
  · next hbelow habove =>
    split at h <;> cases h
    · exact hbelow
    · exact habove
    · exact habove
    · rcases Nat.mod_two_eq_zero_or_one (i.middle * Nat.pow 10 (-exponent).toNat /
          (Nat.pow 10 exponent.toNat * unit)) with heven | hodd
      · rw [heven]
        exact hbelow
      · rw [hodd]
        exact habove

/-- A grid that misses the interval has no point between its ends. -/
theorem Interval.exists_below_of_onGrid (h : i.onGrid tie exponent = none) :
    ∃ below, below * (10 ^ exponent.toNat * (4 * denominator)) ≤ i.middle * 10 ^ (-exponent).toNat ∧
      i.middle * 10 ^ (-exponent).toNat < (below + 1) * (10 ^ exponent.toNat * (4 * denominator)) ∧
      i.holds (10 ^ (-exponent).toNat) (below * (10 ^ exponent.toNat * (4 * denominator))) = false ∧
      i.holds (10 ^ (-exponent).toNat) ((below + 1) * (10 ^ exponent.toNat * (4 * denominator))) = false := by
  unfold onGrid at h
  obtain ⟨unit, hunit⟩ : ∃ unit, 4 * denominator = unit := ⟨_, rfl⟩
  have hpos : 0 < 4 * denominator := by decide +kernel
  rw [hunit] at h hpos ⊢
  dsimp only at h
  have hstep : 0 < 10 ^ exponent.toNat * unit := Nat.mul_pos (Nat.pow_pos (by decide)) hpos
  refine ⟨_, Nat.div_mul_le_self _ _, ?_, ?_⟩
  · rw [Nat.succ_mul]
    exact Nat.lt_div_mul_add hstep
  split at h
  · next hbelow habove => exact ⟨hbelow, habove⟩
  · cases h
  · cases h
  · split at h <;> cases h

theorem Interval.le_of_holds {scale point : Nat} (h : i.holds scale point = true) :
    i.low * scale ≤ point ∧ point ≤ i.high * scale := by
  unfold holds at h
  split at h <;> simp at h <;> omega

theorem Interval.le_or_le_of_not_holds {scale point : Nat} (h : i.holds scale point = false) :
    point ≤ i.low * scale ∨ i.high * scale ≤ point := by
  unfold holds at h
  split at h <;> simp at h <;> omega

theorem Interval.holds_of_between {scale point : Nat} (hlow : i.low * scale < point) (hhigh : point < i.high * scale) :
    i.holds scale point = true := by
  unfold holds
  split <;> simp <;> omega

/-- The first grid that meets the interval is taken. -/
theorem Interval.exists_coarsest : ∀ {tries : Nat} {exponent : Int},
    (∃ k : Nat, k < tries ∧ (i.onGrid tie (exponent - k)).isSome) →
      ∃ (k digits : Nat), i.coarsest tie exponent tries = ⟨digits, exponent - k⟩ ∧
        i.onGrid tie (exponent - k) = some digits ∧ (k ≠ 0 → i.onGrid tie (exponent - k + 1) = none)
  | 0, _, ⟨_, hk, _⟩ => absurd hk (Nat.not_lt_zero _)
  | tries + 1, exponent, ⟨k, hk, hsome⟩ => by
    rw [coarsest]
    cases hgrid : i.onGrid tie exponent with
    | some digits => exact ⟨0, digits, by simp, by simpa using hgrid, fun hne => absurd rfl hne⟩
    | none =>
      obtain _ | k := k
      · rw [Int.natCast_zero, Int.sub_zero, hgrid] at hsome
        cases hsome
      have hshift (k : Nat) : exponent - 1 - k = exponent - (k + 1 : Nat) := by omega
      obtain ⟨k', digits, hcoarsest, hfound, hnone⟩ := exists_coarsest ⟨k, Nat.lt_of_succ_lt_succ hk, hshift k ▸ hsome⟩
      rw [hshift] at hcoarsest hfound hnone
      refine ⟨k' + 1, digits, hcoarsest, hfound, fun _ => ?_⟩
      rcases Nat.eq_zero_or_pos k' with rfl | hpos
      · rw [Nat.zero_add, Int.natCast_one, Int.sub_add_cancel]
        exact hgrid
      · exact hnone hpos.ne'

/-- A number lies on the finest grid itself. -/
theorem Finite.onGrid_finest {x : Finite} (hx : x.pattern ≠ 0) : x.interval.onGrid tie (-1076) ≠ none := by
  intro hnone
  obtain ⟨below, hle, hlt, hholds, -⟩ := Interval.exists_below_of_onGrid hnone
  obtain ⟨scale, hscale, hfive⟩ : ∃ scale, 10 ^ (-(-1076 : Int)).toNat = scale * (4 * denominator) ∧ 0 < scale :=
    ⟨5 ^ 1076, by decide +kernel, Nat.pow_pos (by decide)⟩
  have hpos : 0 < 4 * denominator := by decide +kernel
  obtain ⟨unit, hunit⟩ : ∃ unit, 4 * denominator = unit := ⟨_, rfl⟩
  rw [hscale, hunit, show (-1076 : Int).toNat = 0 from rfl, Nat.pow_zero, Nat.one_mul] at hle hlt hholds
  rw [hunit] at hpos
  rw [← Nat.mul_assoc] at hle hlt
  have hself : below = x.interval.middle * scale :=
    le_antisymm (Nat.le_of_mul_le_mul_right hle hpos) (Nat.le_of_lt_succ (Nat.lt_of_mul_lt_mul_right hlt))
  have hne : 0 < scale * unit := Nat.mul_pos hfive hpos
  rw [hself, Nat.mul_assoc, Interval.holds_of_between (Nat.mul_lt_mul_of_pos_right (low_lt_middle hx) hne)
    (Nat.mul_lt_mul_of_pos_right middle_lt_high hne)] at hholds
  cases hholds

end

/-! ### The digits that are needed -/

theorem ofDigitChars_lt : ∀ {cs : List Char} (start : Nat), (∀ c ∈ cs, c.isDigit = true) →
    Nat.ofDigitChars 10 cs start < (start + 1) * 10 ^ cs.length
  | [], start, _ => by simp
  | c :: cs, start, h => by
    rw [List.forall_mem_cons] at h
    have hdigit : c.toNat - '0'.toNat ≤ 9 := by
      have hc := h.1
      simp only [Char.isDigit, Bool.and_eq_true, decide_eq_true_eq] at hc
      have hle : c.toNat ≤ 57 := hc.2
      exact Nat.sub_le_sub_right hle 48
    have hrest := ofDigitChars_lt (10 * start + (c.toNat - '0'.toNat)) h.2
    rw [Nat.ofDigitChars_cons, List.length_cons, Nat.pow_succ']
    refine hrest.trans_le ?_
    rw [← Nat.mul_assoc]
    exact Nat.mul_le_mul_right _ (by omega)

theorem lt_pow_length_toDigits (n : Nat) : n < 10 ^ (Nat.toDigits 10 n).length := by
  have hlt : Nat.ofDigitChars 10 (Nat.toDigits 10 n) 0 < (0 + 1) * 10 ^ (Nat.toDigits 10 n).length :=
    ofDigitChars_lt 0 fun c hc => Nat.isDigit_of_mem_toDigits (by decide) (by decide) hc
  rwa [Nat.ofDigitChars_ten_toDigits, Nat.zero_add, Nat.one_mul] at hlt

theorem denominator_lt_pow {n : Nat} (h : 324 ≤ n) : denominator < 10 ^ n := by
  obtain ⟨m, hm, hlt⟩ : ∃ m, m ≤ 324 ∧ denominator < 10 ^ m := ⟨324, le_refl _, by decide +kernel⟩
  exact hlt.trans_le (Nat.pow_le_pow_right (by decide) (hm.trans h))

theorem border_lt (p : Nat) : border p < 4 * leadingBit * gap p :=
  (Nat.lt_add_of_pos_right (gap_pos p)).trans_le (border_add_gap_le p)

/-- The step of the next coarser grid is ten times as wide. -/
theorem pow_toNat_succ (exponent : Int) : 10 ^ (exponent + 1).toNat * 10 ^ (-exponent).toNat =
    10 * (10 ^ exponent.toNat * 10 ^ (-(exponent + 1)).toNat) := by
  rcases Int.lt_or_le exponent 0 with hneg | hpos
  · have hpow : (-exponent).toNat = (-(exponent + 1)).toNat + 1 := by omega
    rw [show (exponent + 1).toNat = 0 by omega, show exponent.toNat = 0 by omega, hpow, Nat.pow_succ']
    ring
  · have hpow : (exponent + 1).toNat = exponent.toNat + 1 := by omega
    rw [show (-exponent).toNat = 0 by omega, show (-(exponent + 1)).toNat = 0 by omega, hpow, Nat.pow_succ']
    ring

section
variable {x : Finite} {tie : Tie} {exponent : Int} {digits : Nat}

/-- A grid that misses the interval has steps wider than the gaps on both sides. -/
theorem Finite.gap_le_of_onGrid {p : Nat} (hp : x.pattern = p + 1) (hnone : x.interval.onGrid tie exponent = none) :
    2 * (gap p + gap (p + 1)) * 10 ^ (-exponent).toNat ≤ 10 ^ exponent.toNat * (4 * denominator) := by
  obtain ⟨below, hle, hlt, hbelow, habove⟩ := Interval.exists_below_of_onGrid hnone
  have hscale : 0 < 10 ^ (-exponent).toNat := Nat.pow_pos (by decide)
  have hlow := Nat.mul_lt_mul_of_pos_right (low_lt_middle (x := x) (by omega)) hscale
  have hhigh := Nat.mul_lt_mul_of_pos_right (middle_lt_high (x := x)) hscale
  have hwidth : x.interval.low * 10 ^ (-exponent).toNat + 2 * (gap p + gap (p + 1)) * 10 ^ (-exponent).toNat =
      x.interval.high * 10 ^ (-exponent).toNat := by
    rw [← Nat.add_mul, interval_width hp]
  rw [Nat.succ_mul] at hlt habove
  have hbelow' := Interval.le_or_le_of_not_holds hbelow
  have habove' := Interval.le_or_le_of_not_holds habove
  omega

/-- Where the next coarser grid misses the interval, few digits are needed. -/
theorem Finite.digits_lt_of_onGrid (hx : x.pattern ≠ 0) (h : x.interval.onGrid tie exponent = some digits)
    (hnone : x.interval.onGrid tie (exponent + 1) = none) : digits < 40 * leadingBit := by
  obtain ⟨p, hp⟩ := Nat.exists_eq_succ_of_ne_zero hx
  have hgap := gap_le_of_onGrid hp hnone
  have hholds := (Interval.le_of_holds (Interval.holds_of_onGrid h)).2
  obtain ⟨unit, hdef⟩ : ∃ unit, 4 * denominator = unit := ⟨_, rfl⟩
  rw [hdef] at hgap hholds
  rw [interval_high, hp] at hholds
  have hten := pow_toNat_succ exponent
  have hborder := border_lt (p + 1)
  have hpow (n : Nat) : 0 < 10 ^ n := Nat.pow_pos (by decide)
  have hscale := hpow (-exponent).toNat
  have hscale' := hpow (-(exponent + 1)).toNat
  generalize 10 ^ exponent.toNat = step at hholds hten ⊢
  generalize 10 ^ (exponent + 1).toNat = step' at hgap hten
  generalize 10 ^ (-exponent).toNat = scale at hholds hten hscale
  generalize 10 ^ (-(exponent + 1)).toNat = scale' at hgap hten hscale'
  have hscales : 0 < 2 * scale * scale' := Nat.mul_pos (Nat.mul_pos (by decide) hscale) hscale'
  refine Nat.lt_of_mul_lt_mul_right (a := step * unit * scale') ?_
  calc digits * (step * unit * scale') = digits * (step * unit) * scale' := (Nat.mul_assoc ..).symm
    _ ≤ 2 * border (p + 1) * scale * scale' := Nat.mul_le_mul_right _ hholds
    _ = border (p + 1) * (2 * scale * scale') := by ring
    _ < 4 * leadingBit * gap (p + 1) * (2 * scale * scale') := Nat.mul_lt_mul_of_pos_right hborder hscales
    _ = 4 * leadingBit * scale * (2 * gap (p + 1) * scale') := by ring
    _ ≤ 4 * leadingBit * scale * (step' * unit) :=
      Nat.mul_le_mul_left _ ((Nat.mul_le_mul_right _ (by omega)).trans hgap)
    _ = 4 * leadingBit * unit * (step' * scale) := by ring
    _ = 40 * leadingBit * (step * unit * scale') := by rw [hten]; ring

/-- Only grids with steps below the finest gap are that fine. -/
theorem Finite.le_exponent_of_onGrid (hx : x.pattern ≠ 0) (hnone : x.interval.onGrid tie (exponent + 1) = none) :
    -324 ≤ exponent := by
  obtain ⟨p, hp⟩ := Nat.exists_eq_succ_of_ne_zero hx
  have hgap := gap_le_of_onGrid hp hnone
  by_contra hlt
  have hdenominator : denominator < 10 ^ (-(exponent + 1)).toNat := denominator_lt_pow (by omega)
  obtain ⟨units, hunits⟩ : ∃ units, denominator = units := ⟨_, rfl⟩
  rw [hunits] at hgap hdenominator
  have hgaps : 4 * 10 ^ (-(exponent + 1)).toNat ≤ 2 * (gap p + gap (p + 1)) * 10 ^ (-(exponent + 1)).toNat :=
    Nat.mul_le_mul_right _ (by have := gap_pos p; have := gap_pos (p + 1); omega)
  rw [show (exponent + 1).toNat = 0 by omega, Nat.pow_zero, Nat.one_mul] at hgap
  omega

/-- The grid that is tried first has a step above the number. -/
theorem Finite.digits_lt_two_of_onGrid {top : Nat} (hx : x.pattern ≠ 0)
    (htop : (Nat.toDigits 10 (x.interval.middle / (4 * denominator))).length = top)
    (h : x.interval.onGrid tie top = some digits) : digits < 2 := by
  have hholds := (Interval.le_of_holds (Interval.holds_of_onGrid h)).2
  have htwice := high_lt_two_mul_middle hx
  have hunit : 0 < 4 * denominator := by decide +kernel
  have hlt := lt_pow_length_toDigits (x.interval.middle / (4 * denominator))
  rw [htop, Nat.div_lt_iff_lt_mul hunit] at hlt
  rw [Int.toNat_natCast, show (-(top : Int)).toNat = 0 by omega, Nat.pow_zero, Nat.mul_one] at hholds
  have hdigits : digits * (10 ^ top * (4 * denominator)) < 2 * (10 ^ top * (4 * denominator)) := by omega
  exact Nat.lt_of_mul_lt_mul_right hdigits

/-- No more digits are needed than 64 bits hold, and the shortest decimal is rounded to the number. -/
theorem Finite.exists_shortest (tie : Tie) (hx : x.pattern ≠ 0) :
    ∃ digits exponent, x.shortest tie = ⟨digits, exponent⟩ ∧ decimalPattern digits exponent = x.pattern ∧
      digits < 40 * leadingBit ∧ -324 ≤ exponent := by
  rw [shortest]
  generalize htop : (Nat.toDigits 10 (x.interval.middle / (4 * denominator))).length = top
  have hmeets : ∃ k : Nat, k < top + 1077 ∧ (x.interval.onGrid tie (top - k)).isSome := by
    refine ⟨top + 1076, by omega, ?_⟩
    rw [show (top : Int) - (top + 1076 : Nat) = -1076 by omega, Option.isSome_iff_ne_none]
    exact onGrid_finest hx
  obtain ⟨k, digits, hcoarsest, hfound, hnone⟩ := Interval.exists_coarsest hmeets
  refine ⟨digits, top - k, hcoarsest, ?_, ?_⟩
  · exact roundedPattern_of_holds hx (Nat.pow_pos (by decide)) (Interval.holds_of_onGrid hfound)
  · rcases Nat.eq_zero_or_pos k with rfl | hpos
    · rw [Int.natCast_zero, Int.sub_zero] at hfound ⊢
      exact ⟨(digits_lt_two_of_onGrid hx htop hfound).trans (by decide), by omega⟩
    · have hcoarser := hnone hpos.ne'
      exact ⟨digits_lt_of_onGrid hx hfound hcoarser, le_exponent_of_onGrid hx hcoarser⟩

end

end DataGrid.Binary64
