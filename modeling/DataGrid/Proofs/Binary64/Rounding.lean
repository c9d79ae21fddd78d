import DataGrid.Proofs.Binary64.Integers

/-!
# Rounding to binary64

Between a pattern and the next one lies a border, halfway between the two numbers. A fraction is rounded to a
pattern or a smaller one exactly if it lies below the border, or on it where the pattern is even
(`roundedPattern_le_iff`). All else about rounding is read off the borders: a number is rounded to itself, a
fraction is at most half a gap away from the number that it is rounded to, and fractions that are some parts in
`2 ^ 53` apart are rounded to patterns that are as many places apart.
-/

namespace DataGrid.Binary64

open DataGrid.Binary64.Finite

/-! ### Patterns and the gaps between them -/

/-- The distance of a pattern's number to the next one. -/
def gap (pattern : Nat) : Nat := 2 ^ (pattern / leadingBit - 1)

/-- Twice the point halfway between a pattern's number and the next one. -/
def border (pattern : Nat) : Nat := patternUnits pattern + patternUnits (pattern + 1)

section
variable {p q : Nat}

theorem gap_pos (p : Nat) : 0 < gap p := Nat.two_pow_pos _

theorem gap_mono (h : p ≤ q) : gap p ≤ gap q :=
  Nat.pow_le_pow_right (by decide) (Nat.sub_le_sub_right (Nat.div_le_div_right h) 1)

theorem gap_add {shift m : Nat} (hle : leadingBit ≤ m) (hlt : m < 2 * leadingBit) :
    gap (shift * leadingBit + m) = 2 ^ shift := by
  rw [gap, Nat.add_comm, Nat.add_mul_div_right _ _ leadingBit_pos,
    Nat.div_eq_of_lt_le (k := 1) (by omega) (by omega), Nat.add_sub_cancel_left]

theorem gap_of_lt (h : p < 2 * leadingBit) : gap p = 1 := by
  have hlt : p / leadingBit < 2 := Nat.div_lt_of_lt_mul (by omega)
  rw [gap, show p / leadingBit - 1 = 0 by omega, Nat.pow_zero]

/-- The gap below the number with a shift and a mantissa, unless it is the lowest one with the shift. -/
theorem gap_pred {shift m : Nat} (hp : p + 1 = shift * leadingBit + m) (hm : m ≤ 2 * leadingBit)
    (hshift : shift ≠ 0 → leadingBit < m) : gap p = 2 ^ shift := by
  rcases Nat.eq_zero_or_pos shift with rfl | hpos
  · exact gap_of_lt (by omega)
  · have hlt := hshift hpos.ne'
    have hsplit : p = shift * leadingBit + (m - 1) := by omega
    exact hsplit ▸ gap_add (by omega) (by omega)

/-- A pattern is below all shifts or has a mantissa with its leading bit. -/
theorem lt_or_exists_mantissa (p : Nat) :
    p < leadingBit ∨ ∃ shift m, leadingBit ≤ m ∧ m < 2 * leadingBit ∧ p = shift * leadingBit + m := by
  rcases Nat.lt_or_ge p leadingBit with hlt | hge
  · exact .inl hlt
  · have hsplit := Nat.div_add_mod p leadingBit
    have hmod := Nat.mod_lt p leadingBit_pos
    obtain ⟨shift, hshift⟩ := Nat.exists_eq_add_of_le (Nat.div_pos hge leadingBit_pos)
    rw [hshift, Nat.mul_add, Nat.mul_one, Nat.mul_comm] at hsplit
    exact .inr ⟨shift, leadingBit + p % leadingBit, by omega, by omega, by omega⟩

theorem patternUnits_leadingBit : patternUnits leadingBit = leadingBit := by
  have hunits : patternUnits (0 * leadingBit + leadingBit) = leadingBit * 2 ^ 0 :=
    patternUnits_add (le_refl leadingBit) (by omega)
  rwa [Nat.zero_mul, Nat.zero_add, Nat.pow_zero, Nat.mul_one] at hunits

theorem patternUnits_succ (p : Nat) : patternUnits (p + 1) = patternUnits p + gap p := by
  rcases lt_or_exists_mantissa p with hlt | ⟨shift, m, hle, hlt, rfl⟩
  · rw [gap_of_lt (by omega), patternUnits_of_lt hlt]
    rcases Nat.lt_or_eq_of_le hlt with hlt' | heq
    · exact patternUnits_of_lt hlt'
    · rw [show p + 1 = leadingBit from heq, patternUnits_leadingBit]
  · rw [gap_add hle hlt, Nat.add_assoc, patternUnits_add (by omega) (by omega), patternUnits_add hle hlt.le,
      Nat.add_mul, Nat.one_mul]

theorem border_eq (p : Nat) : border p = 2 * patternUnits p + gap p := by
  rw [border, patternUnits_succ]
  omega

theorem border_add_gap (p : Nat) : border p + gap p = 2 * patternUnits (p + 1) := by
  rw [border, patternUnits_succ]
  omega

theorem border_mul_add_gap_mul (p den : Nat) : border p * den + gap p * den = 2 * (patternUnits (p + 1) * den) := by
  rw [← Nat.add_mul, border_add_gap, Nat.mul_assoc]

theorem border_lt_border (h : p < q) : border p < border q :=
  Nat.add_lt_add (strictMono_patternUnits h) (strictMono_patternUnits (Nat.succ_lt_succ h))

/-- A mantissa has 53 bits. -/
theorem patternUnits_add_gap_le (p : Nat) : patternUnits p + gap p ≤ 2 * leadingBit * gap p := by
  rcases lt_or_exists_mantissa p with hlt | ⟨shift, m, hle, hlt, rfl⟩
  · rw [gap_of_lt (by omega), patternUnits_of_lt hlt]
    omega
  · rw [gap_add hle hlt, patternUnits_add hle hlt.le, ← Nat.succ_mul]
    exact Nat.mul_le_mul_right _ hlt

theorem border_add_gap_le (p : Nat) : border p + gap p ≤ 4 * leadingBit * gap p := by
  have hunits := patternUnits_add_gap_le p
  have hdouble : 4 * leadingBit * gap p = 2 * (2 * leadingBit * gap p) := by ring
  rw [border_eq, hdouble]
  omega

theorem mul_gap_le (h : leadingBit ≤ p) : leadingBit * gap p ≤ patternUnits p := by
  rcases lt_or_exists_mantissa p with hlt | ⟨shift, m, hle, hlt, rfl⟩
  · omega
  · rw [gap_add hle hlt, patternUnits_add hle hlt.le]
    exact Nat.mul_le_mul_right _ hle

theorem patternUnits_add_mul_gap_le (p k : Nat) : patternUnits p + k * gap p ≤ patternUnits (p + k) := by
  induction k with
  | zero => simp
  | succ k ih =>
    have hgap : gap p ≤ gap (p + k) := gap_mono (Nat.le_add_right p k)
    rw [← Nat.add_assoc, patternUnits_succ, Nat.succ_mul]
    omega

theorem border_add_mul_gap_le (p k : Nat) : border p + 2 * k * gap p ≤ border (p + k) := by
  have hunits := patternUnits_add_mul_gap_le p k
  have hgap : gap p ≤ gap (p + k) := gap_mono (Nat.le_add_right p k)
  rw [border_eq, border_eq, Nat.mul_assoc]
  omega

end

/-! ### Which fractions are rounded to a pattern -/

section
variable {num den num' den' p : Nat}

/-- A fraction is rounded to an integer that is at most one half off, and exactly one half only if it is even. -/
theorem roundHalfEven_bounds (num : Nat) (hden : 0 < den) :
    (2 * num < (2 * roundHalfEven num den + 1) * den ∨
      2 * num = (2 * roundHalfEven num den + 1) * den ∧ roundHalfEven num den % 2 = 0) ∧
    (2 * roundHalfEven num den * den < 2 * num + den ∨
      2 * roundHalfEven num den * den = 2 * num + den ∧ roundHalfEven num den % 2 = 0) := by
  have hnum := Nat.div_add_mod num den
  have hmod := Nat.mod_lt num hden
  rw [Nat.mul_comm] at hnum
  have hmul (a : Nat) : (2 * a + 1) * den = 2 * (a * den) + den ∧ 2 * a * den = 2 * (a * den) := by
    constructor <;> ring
  have hsucc : (num / den + 1) * den = num / den * den + den := Nat.succ_mul _ _
  rcases roundHalfEven_cases num den with ⟨h, hr⟩ | ⟨h, hr⟩ | ⟨h, hr⟩
  · rw [hr, (hmul _).1, (hmul _).2]
    omega
  · rw [hr, (hmul _).1, (hmul _).2]
    omega
  · rcases Nat.mod_two_eq_zero_or_one (num / den) with heven | hodd
    · rw [heven, Nat.add_zero] at hr
      rw [hr, (hmul _).1, (hmul _).2]
      omega
    · rw [hodd] at hr
      rw [hr, (hmul _).1, (hmul _).2]
      omega

/-- The shift and the mantissa that a fraction is rounded to. -/
theorem exists_shift_mantissa (num : Nat) (hden : 0 < den) :
    ∃ shift m, roundedPattern num den = shift * leadingBit + m ∧
      m = roundHalfEven (num * denominator) (den * 2 ^ shift) ∧ m ≤ 2 * leadingBit ∧
      (shift ≠ 0 → leadingBit * (den * 2 ^ shift) ≤ num * denominator) := by
  refine ⟨_, _, rfl, rfl, ?_⟩
  generalize num * denominator = scaled
  generalize hshift : (scaled / den).log2 - 52 = shift
  have hbit : leadingBit = 2 ^ 52 := rfl
  constructor
  · refine roundHalfEven_le_of_le (Nat.mul_pos hden (Nat.two_pow_pos _)) ?_
    have hlt : scaled / den < 2 ^ ((scaled / den).log2 + 1) := Nat.lt_log2_self
    have hpow : 2 ^ ((scaled / den).log2 + 1) ≤ 2 * leadingBit * 2 ^ shift := by
      rw [hbit, ← Nat.pow_succ', ← Nat.pow_add]
      exact Nat.pow_le_pow_right (by decide) (by omega)
    calc scaled ≤ den * (2 * leadingBit * 2 ^ shift) := ((Nat.div_lt_iff_lt_mul hden).1 (hlt.trans_le hpow)).le.trans
          (Nat.le_of_eq (Nat.mul_comm _ _))
      _ = 2 * leadingBit * (den * 2 ^ shift) := Nat.mul_left_comm _ _ _
  · intro hne
    have hle : 2 ^ (scaled / den).log2 ≤ scaled / den := Nat.log2_self_le (by
      intro hzero
      rw [hzero, Nat.log2_zero] at hshift
      omega)
    have hpow : leadingBit * 2 ^ shift = 2 ^ (scaled / den).log2 := by
      rw [hbit, ← Nat.pow_add]
      congr 1
      omega
    calc leadingBit * (den * 2 ^ shift) = leadingBit * 2 ^ shift * den := by ring
      _ ≤ scaled / den * den := Nat.mul_le_mul_right _ (hpow ▸ hle)
      _ ≤ scaled := Nat.div_mul_le_self _ _

/-- Only the smallest shift has mantissas without the leading bit. -/
theorem shift_eq_zero {shift m : Nat} (hlt : m < leadingBit) (hshift : shift ≠ 0 → leadingBit ≤ m) : shift = 0 := by
  by_contra hne
  exact absurd (hshift hne) (Nat.not_le.2 hlt)

theorem patternUnits_shift {shift m : Nat} (hm : m ≤ 2 * leadingBit) (hshift : shift ≠ 0 → leadingBit ≤ m) :
    patternUnits (shift * leadingBit + m) = m * 2 ^ shift := by
  rcases Nat.lt_or_ge m leadingBit with hlt | hle
  · obtain rfl := shift_eq_zero hlt hshift
    rw [Nat.zero_mul, Nat.zero_add, patternUnits_of_lt hlt, Nat.pow_zero, Nat.mul_one]
  · exact patternUnits_add hle hm

theorem mod_two_shift (shift m : Nat) : (shift * leadingBit + m) % 2 = m % 2 := by
  have heven : leadingBit = 2 * 2 ^ 51 := rfl
  rw [heven, Nat.mul_left_comm, Nat.mul_add_mod]

/-- The fraction lies below the upper border of the pattern that it is rounded to, or on it. -/
theorem two_mul_le_border (num : Nat) (hden : 0 < den) :
    2 * (num * denominator) < border (roundedPattern num den) * den ∨
      2 * (num * denominator) = border (roundedPattern num den) * den ∧ roundedPattern num den % 2 = 0 := by
  obtain ⟨shift, m, hpattern, hm, hle, hshift⟩ := exists_shift_mantissa num hden
  have hpos : 0 < den * 2 ^ shift := Nat.mul_pos hden (Nat.two_pow_pos _)
  have hbounds := (roundHalfEven_bounds (num * denominator) hpos).1
  have hleading (hne : shift ≠ 0) : leadingBit ≤ m := hm ▸ le_roundHalfEven hpos (hshift hne)
  rw [← hm] at hbounds
  have hgap : 2 ^ shift ≤ gap (shift * leadingBit + m) := by
    rcases Nat.lt_or_ge m leadingBit with hlt | hge
    · obtain rfl := shift_eq_zero hlt hleading
      exact gap_pos _
    · exact gap_add (le_refl leadingBit) (by have := leadingBit_pos; omega) ▸ gap_mono (by omega)
  have hborder : (2 * m + 1) * (den * 2 ^ shift) ≤ border (shift * leadingBit + m) * den := by
    rw [border_eq, patternUnits_shift hle hleading]
    calc (2 * m + 1) * (den * 2 ^ shift) = (2 * (m * 2 ^ shift) + 2 ^ shift) * den := by ring
      _ ≤ _ := Nat.mul_le_mul_right _ (Nat.add_le_add_left hgap _)
  rw [hpattern, mod_two_shift]
  omega

/-- It lies above the lower border, or on it. -/
theorem border_le_two_mul (num : Nat) (hden : 0 < den) (hp : roundedPattern num den = p + 1) :
    border p * den < 2 * (num * denominator) ∨ border p * den = 2 * (num * denominator) ∧ (p + 1) % 2 = 0 := by
  obtain ⟨shift, m, hpattern, hm, hle, hshift⟩ := exists_shift_mantissa num hden
  have hpos : 0 < den * 2 ^ shift := Nat.mul_pos hden (Nat.two_pow_pos _)
  have hbounds := (roundHalfEven_bounds (num * denominator) hpos).2
  have hleading (hne : shift ≠ 0) : leadingBit ≤ m := hm ▸ le_roundHalfEven hpos (hshift hne)
  have hunits : patternUnits (p + 1) = m * 2 ^ shift := by
    rw [← hp, hpattern]
    exact patternUnits_shift hle hleading
  have hborder : border p * den + gap p * den = 2 * m * (den * 2 ^ shift) := by
    rw [border_mul_add_gap_mul, hunits]
    ring
  rw [hpattern] at hp
  rw [← hm] at hbounds
  rw [← hp, mod_two_shift]
  by_cases hlowest : shift ≠ 0 ∧ m = leadingBit
  · -- The numbers below lie closer, and the fraction is no smaller than the number.
    have hexact := hshift hlowest.1
    have hgap := Nat.mul_pos (gap_pos p) hden
    rw [← hlowest.2] at hexact
    rw [Nat.mul_assoc] at hborder
    omega
  · have hgap := gap_pred hp.symm hle fun hne => by
      have := hleading hne
      omega
    rw [hgap, Nat.mul_comm (2 ^ shift)] at hborder
    omega

/-- A fraction is rounded to a pattern or a smaller one where it is no larger than the border above; on the border
the even one of the two is taken. -/
theorem roundedPattern_le_iff (num : Nat) (hden : 0 < den) : roundedPattern num den ≤ p ↔
    2 * (num * denominator) < border p * den ∨ 2 * (num * denominator) = border p * den ∧ p % 2 = 0 := by
  constructor
  · intro h
    have hbelow := two_mul_le_border num hden
    rcases h.lt_or_eq with hlt | rfl
    · have hborder := Nat.mul_lt_mul_of_pos_right (border_lt_border hlt) hden
      omega
    · exact hbelow
  · intro h
    by_contra hlt
    obtain ⟨q, hq⟩ := Nat.exists_eq_add_of_lt (Nat.not_le.1 hlt)
    have habove := border_le_two_mul num hden hq
    rcases Nat.eq_zero_or_pos q with rfl | hpos
    · rw [Nat.add_zero] at habove
      omega
    · have hborder := Nat.mul_lt_mul_of_pos_right (border_lt_border (p := p) (q := p + q) (by omega)) hden
      omega

theorem roundedPattern_mono (hden : 0 < den) (hden' : 0 < den') (h : num * den' ≤ num' * den) :
    roundedPattern num den ≤ roundedPattern num' den' := by
  have hborder := (roundedPattern_le_iff num' hden').1 (le_refl _)
  refine (roundedPattern_le_iff _ hden).2 ?_
  generalize roundedPattern num' den' = p at hborder ⊢
  generalize denominator = units at hborder ⊢
  have hscaled : 2 * (num * units) * den' ≤ 2 * (num' * units) * den := by
    calc 2 * (num * units) * den' = num * den' * (2 * units) := by ring
      _ ≤ num' * den * (2 * units) := Nat.mul_le_mul_right _ h
      _ = 2 * (num' * units) * den := by ring
  have hcomm : border p * den' * den = border p * den * den' := Nat.mul_right_comm ..
  rcases hborder with hlt | ⟨heq, heven⟩
  · refine .inl (Nat.lt_of_mul_lt_mul_right (a := den') (hscaled.trans_lt ?_))
    exact hcomm ▸ Nat.mul_lt_mul_of_pos_right hlt hden
  · rw [heq, hcomm] at hscaled
    have hle := Nat.le_of_mul_le_mul_right hscaled hden'
    omega

/-- Only the fraction counts. -/
theorem roundedPattern_congr (hden : 0 < den) (hden' : 0 < den') (h : num * den' = num' * den) :
    roundedPattern num den = roundedPattern num' den' :=
  le_antisymm (roundedPattern_mono hden hden' h.le) (roundedPattern_mono hden' hden h.ge)

theorem roundedPattern_le (hden : 0 < den) (h : num * denominator ≤ patternUnits p * den) :
    roundedPattern num den ≤ p := by
  refine (roundedPattern_le_iff _ hden).2 (.inl ?_)
  have hgap := Nat.mul_pos (gap_pos p) hden
  rw [border_eq, Nat.add_mul, Nat.mul_assoc]
  omega

theorem le_roundedPattern (hden : 0 < den) (h : patternUnits p * den ≤ num * denominator) :
    p ≤ roundedPattern num den := by
  cases p with
  | zero => exact Nat.zero_le _
  | succ q =>
    by_contra hlt
    have hborder := (roundedPattern_le_iff _ hden).1 (Nat.le_of_lt_succ (Nat.not_le.1 hlt))
    have hgap := Nat.mul_pos (gap_pos q) hden
    have hsum := border_mul_add_gap_mul q den
    omega

/-! ### How far a fraction is off -/

/-- A fraction is at most half a gap away from the number that it is rounded to. -/
theorem two_mul_le_gap (num : Nat) (hden : 0 < den) : 2 * (num * denominator) ≤
    2 * (patternUnits (roundedPattern num den) * den) + gap (roundedPattern num den) * den := by
  have hborder := (roundedPattern_le_iff num hden).1 (le_refl _)
  rw [border_eq, Nat.add_mul, Nat.mul_assoc] at hborder
  omega

theorem two_mul_patternUnits_le (num : Nat) (hden : 0 < den) : 2 * (patternUnits (roundedPattern num den) * den) ≤
    2 * (num * denominator) + gap (roundedPattern num den) * den := by
  cases hp : roundedPattern num den with
  | zero =>
    have hzero : patternUnits 0 = 0 := rfl
    rw [hzero, Nat.zero_mul]
    exact Nat.zero_le _
  | succ p =>
    have hborder := border_le_two_mul num hden hp
    have hgap := Nat.mul_le_mul_right den (gap_mono (Nat.le_add_right p 1))
    have hsum := border_mul_add_gap_mul p den
    omega

/-- Fractions that are some parts in `2 ^ 53` apart are rounded to patterns that are as many places apart. -/
theorem roundedPattern_le_add {a b k : Nat} (hden : 0 < den) (hden' : 0 < den')
    (h : num' * den * b ≤ num * den' * (b + a)) (hab : 4 * leadingBit * a < 2 * k * b + a) :
    roundedPattern num' den' ≤ roundedPattern num den + k := by
  have hborder := (roundedPattern_le_iff num hden).1 (le_refl _)
  refine (roundedPattern_le_iff _ hden').2 (.inl ?_)
  generalize roundedPattern num den = p at hborder ⊢
  have hmantissa := border_add_gap_le p
  have hnext : border p * (b + a) < border (p + k) * b := by
    refine Nat.lt_of_add_lt_add_right (n := gap p * a) ?_
    calc border p * (b + a) + gap p * a = border p * b + (border p + gap p) * a := by ring
      _ ≤ border p * b + 4 * leadingBit * gap p * a := Nat.add_le_add_left (Nat.mul_le_mul_right a hmantissa) _
      _ = border p * b + gap p * (4 * leadingBit * a) := by ring
      _ < border p * b + gap p * (2 * k * b + a) := Nat.add_lt_add_left (Nat.mul_lt_mul_of_pos_left hab (gap_pos p)) _
      _ = (border p + 2 * k * gap p) * b + gap p * a := by ring
      _ ≤ border (p + k) * b + gap p * a := Nat.add_le_add_right (Nat.mul_le_mul_right b (border_add_mul_gap_le p k)) _
  have hle : 2 * (num * denominator) ≤ border p * den := by omega
  generalize denominator = units at hle ⊢
  refine Nat.lt_of_mul_lt_mul_right (a := den * b) ?_
  calc 2 * (num' * units) * (den * b) = 2 * units * (num' * den * b) := by ring
    _ ≤ 2 * units * (num * den' * (b + a)) := Nat.mul_le_mul_left _ h
    _ = 2 * (num * units) * (den' * (b + a)) := by ring
    _ ≤ border p * den * (den' * (b + a)) := Nat.mul_le_mul_right _ hle
    _ = border p * (b + a) * (den * den') := by ring
    _ < border (p + k) * b * (den * den') := Nat.mul_lt_mul_of_pos_right hnext (Nat.mul_pos hden hden')
    _ = border (p + k) * den' * (den * b) := by ring

end

end DataGrid.Binary64
