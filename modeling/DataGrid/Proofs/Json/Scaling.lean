import DataGrid.Proofs.Json.Decimals

/-!
# Scaling by a power of ten

The number of a decimal is computed from the numbers of its digits and of a power of ten, each of which is rounded
before the product or quotient is. Both are exact where the digits have 53 bits and the power of ten is at most
`10 ^ 22`; then the result is the nearest number. Otherwise it is at most two places away (`exists_scale?`), also
where a second power of ten is divided by.
-/

namespace DataGrid

open Binary64 Finite

namespace Binary64

/-! ### Integers -/

/-- Where an integer is not exact, it is off by at most half of a power of two that 53 bits cannot tell from it. -/
theorem exists_error (n : Nat) : ∃ g, (g = 0 ∨ ∃ i, g = 2 ^ i) ∧ leadingBit * g ≤ n ∧ leadingBit * g ≤ nearestNat n ∧
    2 * n ≤ 2 * nearestNat n + g ∧ 2 * nearestNat n ≤ 2 * n + g := by
  rcases Nat.lt_or_ge n (2 ^ 52) with hlt | hge
  · rw [nearestNat_of_le (hlt.le.trans (by decide))]
    exact ⟨0, .inl rfl, by omega⟩
  · have hne : n ≠ 0 := by
      rintro rfl
      exact absurd hge (by decide)
    have hlog : 52 ≤ n.log2 := (Nat.le_log2 hne).2 hge
    have hpow : leadingBit * step n = 2 ^ n.log2 := pow_mul_step hlog (le_refl 52)
    have hbounds := roundHalfEven_bounds n (step_pos n)
    have hnearest : nearestNat n = roundHalfEven n (step n) * step n := rfl
    rw [Nat.add_mul, Nat.mul_assoc, ← hnearest, Nat.one_mul] at hbounds
    exact ⟨step n, .inr ⟨_, rfl⟩, hpow ▸ Nat.log2_self_le hne, hpow ▸ pow_log2_le_nearestNat hne, by omega, by omega⟩

/-- An integer is off by one part in `2 ^ 53` at most. -/
theorem nearestNat_near (n : Nat) : 2 * leadingBit * nearestNat n ≤ (2 * leadingBit + 1) * n ∧
    2 * leadingBit * n ≤ (2 * leadingBit + 1) * nearestNat n := by
  obtain ⟨g, -, hg, hg', hle, hle'⟩ := exists_error n
  have hdouble (a b : Nat) (h : 2 * a ≤ 2 * b + g) (hb : leadingBit * g ≤ b) :
      2 * leadingBit * a ≤ (2 * leadingBit + 1) * b := by
    calc 2 * leadingBit * a = leadingBit * (2 * a) := by ring
      _ ≤ leadingBit * (2 * b + g) := Nat.mul_le_mul_left _ h
      _ = 2 * leadingBit * b + leadingBit * g := by ring
      _ ≤ 2 * leadingBit * b + b := Nat.add_le_add_left hb _
      _ = (2 * leadingBit + 1) * b := by ring
  exact ⟨hdouble _ _ hle' hg, hdouble _ _ hle hg'⟩

/-- Two roundings by one part in `2 ^ 53` move a fraction by two places at most. -/
theorem roundedPattern_le_add_two {num den num' den' : Nat} (hden : 0 < den) (hden' : 0 < den')
    (h : 2 * leadingBit * num' * (2 * leadingBit * den) ≤
      (2 * leadingBit + 1) * num * ((2 * leadingBit + 1) * den')) :
    roundedPattern num' den' ≤ roundedPattern num den + 2 := by
  refine roundedPattern_le_add (a := 4 * leadingBit + 1) (b := 2 * leadingBit * (2 * leadingBit)) hden hden' ?_
    (by decide)
  calc num' * den * (2 * leadingBit * (2 * leadingBit))
      = 2 * leadingBit * num' * (2 * leadingBit * den) := by ring
    _ ≤ (2 * leadingBit + 1) * num * ((2 * leadingBit + 1) * den') := h
    _ = num * den' * (2 * leadingBit * (2 * leadingBit) + (4 * leadingBit + 1)) := by ring

/-- Patterns that are two places apart at most. -/
def Near (p q : Nat) : Prop := p ≤ q + 2 ∧ q ≤ p + 2

theorem near_product (m n : Nat) :
    Near (roundedPattern (nearestNat m * nearestNat n) 1) (roundedPattern (m * n) 1) := by
  obtain ⟨hm, hm'⟩ := nearestNat_near m
  obtain ⟨hn, hn'⟩ := nearestNat_near n
  constructor
  · refine roundedPattern_le_add_two Nat.one_pos Nat.one_pos ?_
    calc 2 * leadingBit * (nearestNat m * nearestNat n) * (2 * leadingBit * 1)
        = 2 * leadingBit * nearestNat m * (2 * leadingBit * nearestNat n) := by ring
      _ ≤ (2 * leadingBit + 1) * m * ((2 * leadingBit + 1) * n) := Nat.mul_le_mul hm hn
      _ = _ := by ring
  · refine roundedPattern_le_add_two Nat.one_pos Nat.one_pos ?_
    calc 2 * leadingBit * (m * n) * (2 * leadingBit * 1) = 2 * leadingBit * m * (2 * leadingBit * n) := by ring
      _ ≤ (2 * leadingBit + 1) * nearestNat m * ((2 * leadingBit + 1) * nearestNat n) := Nat.mul_le_mul hm' hn'
      _ = _ := by ring

theorem nearestNat_pos {n : Nat} (hn : 0 < n) : 0 < nearestNat n := by
  have hmono := nearestNat_mono hn
  rwa [nearestNat_of_le (by decide)] at hmono

theorem near_quotient (m : Nat) {n : Nat} (hn : 0 < n) :
    Near (roundedPattern (nearestNat m) (nearestNat n)) (roundedPattern m n) := by
  obtain ⟨hm, hm'⟩ := nearestNat_near m
  obtain ⟨hn₁, hn₁'⟩ := nearestNat_near n
  have hpos := nearestNat_pos hn
  exact ⟨roundedPattern_le_add_two hn hpos (Nat.mul_le_mul hm hn₁'),
    roundedPattern_le_add_two hpos hn (Nat.mul_le_mul hm' hn₁)⟩

/-! ### Dividing twice -/

/-- What comes to `n` when it is rounded to `a`, with a gap `g`, divided by a power of ten that is rounded as well, and
the quotient is rounded, with a gap `h`: `z` is the quotient times the rounded power and `t` times the power itself.
The three errors are not as large as they may be, all at once. Where `g` is no wider than the power of two `b` that
belongs to `h`, it is small beside `h`, since the power of ten is not close to a power of two; and where it is twice
as wide, `h` is small beside `g`. -/
theorem error_le {n a g z h t b : Nat} (hn : 2 * n ≤ 2 * a + g) (ha : 2 * a ≤ 2 * n + g) (ha' : 2 * a ≤ 2 * z + h)
    (hz : 2 * z ≤ 2 * a + h) (ht : t ≤ z) (hz' : 20 * leadingBit * z ≤ (20 * leadingBit + 1) * t)
    (hg : leadingBit * g ≤ a) (hh : leadingBit * h ≤ z) (hgaps : g ≤ b ∨ 2 * b ≤ g) (hb : 89 * b ≤ 80 * h)
    (hb' : 5 * h ≤ 6 * b) : leadingBit * t ≤ (leadingBit + 1) * n ∧ leadingBit * n ≤ (leadingBit + 1) * t := by
  rw [show leadingBit = 4503599627370496 from rfl] at *
  rcases hgaps with hle | hge
  · constructor <;> omega
  · constructor <;> omega

theorem pow_le_or_le (i j : Nat) : 2 ^ i ≤ 2 ^ j ∨ 2 * 2 ^ j ≤ 2 ^ i := by
  rcases Nat.lt_or_ge j i with hlt | hge
  · exact .inr (Nat.pow_succ' ▸ Nat.pow_le_pow_right (by decide) hlt)
  · exact .inl (Nat.pow_le_pow_right (by decide) hge)

/-- The error of an integer in units, which is a power of two as well. -/
theorem exists_error_units (n : Nat) : ∃ g, (g = 0 ∨ ∃ i, g = 2 ^ i) ∧ leadingBit * g ≤ nearestNat n * denominator ∧
    2 * (n * denominator) ≤ 2 * (nearestNat n * denominator) + g ∧
    2 * (nearestNat n * denominator) ≤ 2 * (n * denominator) + g := by
  obtain ⟨j, hunits⟩ : ∃ j, denominator = 2 ^ j := ⟨1074, by decide +kernel⟩
  obtain ⟨g, hg, -, hle, hexact, hexact'⟩ := exists_error n
  have hscale {a b : Nat} (h : 2 * a ≤ 2 * b + g) :
      2 * (a * denominator) ≤ 2 * (b * denominator) + g * denominator := by
    rw [← Nat.mul_assoc, ← Nat.mul_assoc, ← Nat.add_mul]
    exact Nat.mul_le_mul_right _ h
  refine ⟨g * denominator, ?_, ?_, hscale hexact, hscale hexact'⟩
  · rcases hg with rfl | ⟨i, rfl⟩
    · exact .inl (Nat.zero_mul _)
    · exact .inr ⟨i + j, by rw [hunits, Nat.pow_add]⟩
  · rw [← Nat.mul_assoc]
    exact Nat.mul_le_mul_right _ hle

/-- A power of ten beyond `10 ^ 308` is divided by in two steps. After the first one, which divides by `10 ^ 308`, the
quotient is off by one part in `2 ^ 52` at most. -/
theorem quotient_near {n : Nat} (hn : 3 ≤ n) :
    leadingBit * (patternUnits (roundedPattern (nearestNat n) (nearestNat (10 ^ 308))) * 10 ^ 308) ≤
        (leadingBit + 1) * (n * denominator) ∧
      leadingBit * (n * denominator) ≤
        (leadingBit + 1) * (patternUnits (roundedPattern (nearestNat n) (nearestNat (10 ^ 308))) * 10 ^ 308) := by
  -- The power of ten is about 1.11 times a power of two, and three divided by it still has a leading bit.
  obtain ⟨ten, power, i, hten, hpower, hpos, hle, hle', hbinade, hbinade', hnormal⟩ : ∃ ten power i,
      10 ^ 308 = ten ∧ nearestNat (10 ^ 308) = power ∧ 0 < power ∧ ten ≤ power ∧
      20 * leadingBit * power ≤ (20 * leadingBit + 1) * ten ∧ 89 * 2 ^ i ≤ 80 * power ∧ 5 * power ≤ 6 * 2 ^ i ∧
      leadingBit * power ≤ 3 * denominator :=
    ⟨_, _, 1023, rfl, rfl, by decide +kernel, by decide +kernel, by decide +kernel, by decide +kernel,
      by decide +kernel, by decide +kernel⟩
  rw [hpower, hten]
  have hwhole : 3 ≤ nearestNat n := by
    have hmono := nearestNat_mono hn
    rwa [nearestNat_of_le (by decide)] at hmono
  have hpattern : leadingBit ≤ roundedPattern (nearestNat n) power := by
    refine le_roundedPattern hpos ?_
    rw [patternUnits_leadingBit]
    exact hnormal.trans (Nat.mul_le_mul_right _ hwhole)
  have hproduct := two_mul_le_gap (nearestNat n) hpos
  have hproduct' := two_mul_patternUnits_le (nearestNat n) hpos
  have hproductGap := Nat.mul_le_mul_right power (mul_gap_le hpattern)
  obtain ⟨k, hgap⟩ : ∃ k, gap (roundedPattern (nearestNat n) power) = 2 ^ k := ⟨_, rfl⟩
  obtain ⟨g, hg, hwholeGap, hexact, hexact'⟩ := exists_error_units n
  generalize patternUnits (roundedPattern (nearestNat n) power) = quotient at *
  generalize gap (roundedPattern (nearestNat n) power) = h at *
  have hleft (c : Nat) {x y : Nat} (h : x ≤ y) : c * x ≤ c * y := Nat.mul_le_mul_left c h
  refine error_le (b := h * 2 ^ i) hexact hexact' hproduct hproduct' (hleft _ hle) ?_ hwholeGap ?_ ?_ ?_ ?_
  · rw [Nat.mul_left_comm, Nat.mul_left_comm (20 * leadingBit + 1)]
    exact hleft _ hle'
  · rwa [← Nat.mul_assoc]
  · rcases hg with rfl | ⟨l, rfl⟩
    · exact .inl (Nat.zero_le _)
    · rw [hgap, ← Nat.pow_add]
      exact pow_le_or_le _ _
  · rw [Nat.mul_left_comm, Nat.mul_left_comm 80]
    exact hleft _ hbinade
  · rw [Nat.mul_left_comm, Nat.mul_left_comm 6]
    exact hleft _ hbinade'

theorem denominator_pos : 0 < denominator := by decide +kernel

theorem near_quotients {n first k : Nat} (hfirst : first = 308) (hn : 0 < n) (hk : k ≤ 16) :
    Near (roundedPattern (patternUnits (roundedPattern (nearestNat n) (nearestNat (10 ^ first))))
        (denominator * 10 ^ k))
      (roundedPattern n (10 ^ (first + k))) := by
  rw [Nat.pow_add]
  rcases Nat.lt_or_ge n 3 with hsmall | hlarge
  · -- The first quotient has no leading bit, so the bounds do not hold for it.
    have hall : ∀ n ∈ [1, 2], ∀ k < 17, ∀ first ∈ [308],
        let once := roundedPattern (nearestNat n) (nearestNat (10 ^ first))
        let twice := roundedPattern (patternUnits once) (denominator * 10 ^ k)
        twice ≤ roundedPattern n (10 ^ first * 10 ^ k) + 2 ∧
          roundedPattern n (10 ^ first * 10 ^ k) ≤ twice + 2 := by
      decide +kernel
    exact hall n (by simp; omega) k (by omega) first (List.mem_singleton.2 hfirst)
  · obtain ⟨hle, hle'⟩ := quotient_near hlarge
    rw [← hfirst] at hle hle'
    obtain ⟨ten, hten, hpos⟩ : ∃ ten, 10 ^ first = ten ∧ 0 < ten := ⟨_, rfl, Nat.pow_pos (by decide)⟩
    have hpower : 0 < 10 ^ k := Nat.pow_pos (by decide)
    have hunits := denominator_pos
    have hbounds : 4 * leadingBit * 1 < 2 * 2 * leadingBit + 1 := by decide
    rw [hten] at hle hle' ⊢
    generalize patternUnits (roundedPattern (nearestNat n) (nearestNat ten)) = quotient at *
    generalize denominator = units at *
    constructor
    · refine roundedPattern_le_add (Nat.mul_pos hpos hpower) (Nat.mul_pos hunits hpower) ?_ hbounds
      calc quotient * (ten * 10 ^ k) * leadingBit = leadingBit * (quotient * ten) * 10 ^ k := by ring
        _ ≤ (leadingBit + 1) * (n * units) * 10 ^ k := Nat.mul_le_mul_right _ hle
        _ = _ := by ring
    · refine roundedPattern_le_add (Nat.mul_pos hunits hpower) (Nat.mul_pos hpos hpower) ?_ hbounds
      calc n * (units * 10 ^ k) * leadingBit = leadingBit * (n * units) * 10 ^ k := by ring
        _ ≤ (leadingBit + 1) * (quotient * ten) * 10 ^ k := Nat.mul_le_mul_right _ hle'
        _ = _ := by ring

/-! ### Operations on numbers -/

theorem exists_ofRatio? (negative : Bool) {num den : Nat} (h : roundedPattern num den < infinityPattern) :
    ∃ y, ofRatio? negative num den = some y ∧ y.pattern = roundedPattern num den :=
  ⟨⟨negative, _, h⟩, dif_pos h, rfl⟩

theorem exists_ofNat? {n : Nat} (h : roundedPattern n 1 < infinityPattern) :
    ∃ x, ofNat? n = some x ∧ x.units = nearestNat n * denominator := by
  obtain ⟨x, hx, hpattern⟩ := exists_ofRatio? false h
  exact ⟨x, hx, by rw [units_eq, hpattern, patternUnits_roundedPattern]⟩

theorem exists_times? {x y : Finite} {m n : Nat} (hx : x.units = m * denominator) (hy : y.units = n * denominator)
    (h : roundedPattern (m * n) 1 < infinityPattern) :
    ∃ z, x.times? y = some z ∧ z.pattern = roundedPattern (m * n) 1 := by
  have hpos := denominator_pos
  have hpattern : roundedPattern (x.units * y.units) (denominator * denominator) = roundedPattern (m * n) 1 := by
    refine roundedPattern_congr (Nat.mul_pos hpos hpos) Nat.one_pos ?_
    rw [hx, hy, Nat.mul_one]
    generalize denominator = units
    ring
  rw [← hpattern] at h ⊢
  exact exists_ofRatio? x.negative h

theorem exists_over? {x y : Finite} {num den n : Nat} (hden : 0 < den) (hn : 0 < n)
    (hx : x.units * den = num * denominator) (hy : y.units = n * denominator)
    (h : roundedPattern num (den * n) < infinityPattern) :
    ∃ z, x.over? y = some z ∧ z.pattern = roundedPattern num (den * n) := by
  have hpattern : roundedPattern x.units y.units = roundedPattern num (den * n) := by
    refine roundedPattern_congr (hy ▸ Nat.mul_pos hn denominator_pos) (Nat.mul_pos hden hn) ?_
    rw [hy, ← Nat.mul_assoc, hx]
    generalize denominator = units
    ring
  rw [← hpattern] at h ⊢
  exact exists_ofRatio? x.negative h

end Binary64

namespace JsonNumber

theorem powerOfTen_units {k : Nat} (hk : k ≤ 308) : (powerOfTen k).units = nearestNat (10 ^ k) * denominator := by
  obtain ⟨m, hm, hlargest⟩ : ∃ m, 308 ≤ m ∧ roundedPattern (10 ^ m) 1 < infinityPattern :=
    ⟨308, le_refl _, by decide +kernel⟩
  have hle : roundedPattern (10 ^ k) 1 ≤ roundedPattern (10 ^ m) 1 := by
    refine roundedPattern_mono Nat.one_pos Nat.one_pos (Nat.mul_le_mul_right 1 ?_)
    exact Nat.pow_le_pow_right (by decide) (hk.trans hm)
  obtain ⟨x, hx, hunits⟩ := exists_ofNat? (hle.trans_lt hlargest)
  rw [powerOfTen, show Finite.ofNat? (Nat.pow 10 k) = some x from hx]
  exact hunits

theorem nearestNat_pow_ten {k : Nat} (hk : k ≤ 22) : nearestNat (10 ^ k) = 10 ^ k := by
  have hall : ∀ k < 23, nearestNat (10 ^ k) = 10 ^ k := by decide +kernel
  exact hall k (by omega)

/-! ### Decimals -/

theorem decimalPattern_natCast (w k : Nat) : decimalPattern w k = roundedPattern (w * 10 ^ k) 1 := by
  rw [decimalPattern, Int.toNat_natCast, show (-(k : Int)).toNat = 0 by omega, Nat.pow_zero]

theorem decimalPattern_neg (w k : Nat) : decimalPattern w (-k) = roundedPattern w (10 ^ k) := by
  rw [decimalPattern, Int.neg_neg, Int.toNat_natCast, show (-(k : Int)).toNat = 0 by omega, Nat.pow_zero, Nat.mul_one]

/-- What a decimal is scaled to: the nearest number where the digits and the power of ten are exact, and else one
that is not far from it. -/
structure Scaled (w : Nat) (e : Int) (y : Finite) : Prop where
  near : Near y.pattern (decimalPattern w e)
  eq_of_exact : w ≤ 2 ^ 53 → e.natAbs ≤ 22 → y.pattern = decimalPattern w e

section
variable {x : Finite} {w k : Nat}

theorem place_le {e : Int} (hw : 0 < w) (hfinite : decimalPattern w e < infinityPattern) : e ≤ 308 := by
  by_contra hlarge
  obtain ⟨k, rfl⟩ := Int.eq_ofNat_of_zero_le (show 0 ≤ e by omega)
  obtain ⟨m, hm, hle⟩ : ∃ m, m ≤ 309 ∧ patternUnits infinityPattern ≤ 10 ^ m * denominator :=
    ⟨309, le_refl _, by decide +kernel⟩
  have hpower : 10 ^ m ≤ w * 10 ^ k :=
    (Nat.pow_le_pow_right (by decide) (by omega)).trans (Nat.le_mul_of_pos_left _ hw)
  have hinfinite : infinityPattern ≤ decimalPattern w k := by
    rw [decimalPattern_natCast]
    refine le_roundedPattern Nat.one_pos ?_
    rw [Nat.mul_one]
    exact hle.trans (Nat.mul_le_mul_right _ hpower)
  omega

theorem exists_scaleUp? (hx : x.units = nearestNat w * denominator) (hw : 0 < w)
    (hfinite : decimalPattern w k + 2 < infinityPattern) : ∃ y, scaleUp? x k = some y ∧ Scaled w k y := by
  have hk : k ≤ 308 := Int.ofNat_le.1 (place_le hw (Nat.lt_of_add_right_lt hfinite))
  have hnear := near_product w (10 ^ k)
  rw [decimalPattern_natCast] at hfinite
  obtain ⟨y, hy, hpattern⟩ := exists_times? hx (powerOfTen_units hk) (hnear.1.trans_lt hfinite)
  refine ⟨y, by rw [scaleUp?, if_pos hk, hy], ?_, fun hdigits hexponent => ?_⟩
  · rw [hpattern, decimalPattern_natCast]
    exact hnear
  · rw [hpattern, decimalPattern_natCast, nearestNat_of_le hdigits, nearestNat_pow_ten (by omega)]

theorem roundedPattern_le_pattern {n den : Nat} (hx : x.units = n * denominator) (hden : 0 < den) :
    roundedPattern n den ≤ x.pattern := by
  refine roundedPattern_le hden ?_
  rw [← units_eq, hx]
  exact Nat.le_mul_of_pos_right _ hden

theorem over?_powerOfTen {num den : Nat} (hden : 0 < den) (hk : k ≤ 308) (hx : x.units * den = num * denominator)
    (hfinite : roundedPattern num (den * nearestNat (10 ^ k)) < infinityPattern) :
    ((x.over? (powerOfTen k)).getD .zero).pattern = roundedPattern num (den * nearestNat (10 ^ k)) := by
  have hdivisor : 0 < nearestNat (10 ^ k) := nearestNat_pos (Nat.pow_pos (by decide))
  obtain ⟨y, hy, hpattern⟩ := exists_over? hden hdivisor hx (powerOfTen_units hk) hfinite
  rw [hy, Option.getD_some, hpattern]

theorem scaled_scaleDown (hx : x.units = nearestNat w * denominator) (hk : k ≤ 308)
    (hfinite : decimalPattern w (-k) + 2 < infinityPattern) : Scaled w (-k) (scaleDown x k) := by
  have hpos : 0 < 10 ^ k := Nat.pow_pos (by decide)
  have hnear := near_quotient w hpos
  rw [decimalPattern_neg] at hfinite
  have hpattern : (scaleDown x k).pattern = roundedPattern (nearestNat w) (nearestNat (10 ^ k)) := by
    rw [scaleDown, if_pos hk, over?_powerOfTen Nat.one_pos hk (by rw [hx, Nat.mul_one]), Nat.one_mul]
    rw [Nat.one_mul]
    exact hnear.1.trans_lt hfinite
  refine ⟨?_, fun hdigits hexponent => ?_⟩
  · rw [hpattern, decimalPattern_neg]
    exact hnear
  · rw [hpattern, decimalPattern_neg, nearestNat_of_le hdigits, nearestNat_pow_ten (by omega)]

theorem scaled_scaleDown_twice (hx : x.units = nearestNat w * denominator) (hw : 0 < w) (hk : 308 < k)
    (hk' : k ≤ 324) (hfinite : decimalPattern w (-k) + 2 < infinityPattern) :
    Scaled w (-k) (scaleDown x k) := by
  obtain ⟨first, last, hfirst, rfl⟩ : ∃ first last, first = 308 ∧ k = first + last :=
    ⟨308, k - 308, rfl, by omega⟩
  have hnear := near_quotients hfirst hw (show last ≤ 16 by omega)
  have hwhole := nearestNat_pos hw
  have hzero : x.pattern ≠ 0 := by
    intro hzero
    rw [units_eq, hzero, patternUnits_of_lt leadingBit_pos] at hx
    exact (Nat.mul_pos hwhole denominator_pos).ne hx
  have hdivisor : 0 < nearestNat (10 ^ first) := nearestNat_pos (Nat.pow_pos (by decide))
  have hlt := (roundedPattern_le_pattern hx hdivisor).trans_lt x.pattern_lt
  have hdivided := over?_powerOfTen Nat.one_pos hfirst.le (by rw [hx, Nat.mul_one]) (by rwa [Nat.one_mul])
  rw [Nat.one_mul] at hdivided
  rw [← hdivided, ← decimalPattern_neg] at hnear
  obtain ⟨y, hy⟩ : ∃ y, (x.over? (powerOfTen first)).getD .zero = y := ⟨_, rfl⟩
  have hscale : scaleDown x (first + last) = (y.over? (powerOfTen last)).getD .zero := by
    rw [scaleDown, if_neg (by omega), if_neg hzero, ← hfirst, Nat.add_sub_cancel_left, hy, scaleDown,
      if_pos (by omega)]
  rw [hy] at hnear
  have htwice := over?_powerOfTen (x := y) (k := last) denominator_pos (by omega) (by rw [units_eq])
  rw [nearestNat_pow_ten (k := last) (by omega)] at htwice
  have hpattern := htwice (hnear.1.trans_lt hfinite)
  rw [← hscale] at hpattern
  exact ⟨hpattern ▸ hnear, fun _ hexponent => by omega⟩

theorem exists_scale? (negative : Bool) {e : Int} (hw : 0 < w) (hfits : w ≤ capacity) (he : -324 ≤ e)
    (hfinite : decimalPattern w e + 2 < infinityPattern) :
    ∃ y, scale? negative w e = some y ∧ y.negative = negative ∧ Scaled w e y := by
  obtain ⟨x, hx, hunits⟩ := exists_ofNat? (n := w) (roundedPattern_lt (hfits.trans_lt (by decide)))
  rcases Int.lt_or_le e 0 with hneg | hnonneg
  · obtain ⟨k, rfl, hk⟩ : ∃ k : Nat, e = -k ∧ k ≤ 324 := ⟨e.natAbs, by omega, by omega⟩
    have hscaled : Scaled w (-k) (scaleDown x k) := by
      rcases Nat.lt_or_ge 308 k with htwice | honce
      · exact scaled_scaleDown_twice hunits hw htwice hk hfinite
      · exact scaled_scaleDown hunits honce hfinite
    refine ⟨{ scaleDown x k with negative }, ?_, rfl, hscaled.near, hscaled.eq_of_exact⟩
    simp only [scale?, hx, Option.bind_eq_bind, Option.bind_some, if_neg (Int.not_le.2 hneg), Int.neg_neg,
      Int.toNat_natCast]
    rfl
  · obtain ⟨k, rfl⟩ := Int.eq_ofNat_of_zero_le hnonneg
    obtain ⟨y, hy, hscaled⟩ := exists_scaleUp? hunits hw hfinite
    refine ⟨{ y with negative }, ?_, rfl, hscaled.near, hscaled.eq_of_exact⟩
    simp only [scale?, hx, Option.bind_eq_bind, Option.bind_some, if_pos hnonneg, Int.toNat_natCast, hy]
    rfl

end

end JsonNumber

end DataGrid
