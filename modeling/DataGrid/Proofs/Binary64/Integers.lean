import DataGrid.Proofs.Json.Numbers
import Mathlib.Order.Compare
import Mathlib.Order.Monotone.Basic
import Mathlib.Tactic.Ring

/-!
# Integers as binary64 numbers

An integer of 64 bits becomes the binary64 number that is nearest to it, ties to even. This number is an integer again,
`nearest n`: none of those that 53 bits and a power of two can write is closer to `n` (`nearestNat_closest`).
Integers are compared as the nearest ones are (`compare?_integer`). These are in the order of the integers, and
apart where one of them has 53 bits (`nearest_lt_nearest_iff`); beyond, different ones may share theirs.
-/

namespace DataGrid

namespace Binary64

/-! ### Rounding a fraction -/

section
variable {num num' den : Nat}

theorem roundHalfEven_cases (num den : Nat) :
    (2 * (num % den) < den ∧ roundHalfEven num den = num / den) ∨
    (den < 2 * (num % den) ∧ roundHalfEven num den = num / den + 1) ∨
    (2 * (num % den) = den ∧ roundHalfEven num den = num / den + num / den % 2) := by
  unfold roundHalfEven
  dsimp only
  rcases Nat.lt_trichotomy (2 * (num % den)) den with h | h | h
  · exact .inl ⟨h, by rw [Nat.compare_eq_lt.2 h]⟩
  · exact .inr (.inr ⟨h, by rw [Nat.compare_eq_eq.2 h]⟩)
  · exact .inr (.inl ⟨h, by rw [Nat.compare_eq_gt.2 h]⟩)

theorem roundHalfEven_mul (num : Nat) (hden : 0 < den) : roundHalfEven (num * den) den = num := by
  have hmod := Nat.mul_mod_left num den
  have hdiv := Nat.mul_div_cancel num hden
  rcases roundHalfEven_cases (num * den) den with ⟨-, h⟩ | ⟨hlt, -⟩ | ⟨heq, -⟩ <;> omega

/-- Only the fraction counts. -/
theorem roundHalfEven_mul_mul {c : Nat} (hc : 0 < c) (num den : Nat) :
    roundHalfEven (num * c) (den * c) = roundHalfEven num den := by
  have hdiv := Nat.mul_div_mul_right num den hc
  have hmod := Nat.mul_mod_mul_right c num den
  have hlt (a b : Nat) : a * c < b * c ↔ a < b := Nat.mul_lt_mul_right hc
  have heq (a b : Nat) : a * c = b * c ↔ a = b := Nat.mul_left_inj hc.ne'
  have hcases := roundHalfEven_cases (num * c) (den * c)
  rw [hdiv, hmod, ← Nat.mul_assoc, hlt, hlt, heq] at hcases
  rcases roundHalfEven_cases num den with ⟨h, h'⟩ | ⟨h, h'⟩ | ⟨h, h'⟩ <;> omega

theorem roundHalfEven_mono (h : num ≤ num') : roundHalfEven num den ≤ roundHalfEven num' den := by
  have hdiv := Nat.div_le_div_right (c := den) h
  have hnum := Nat.div_add_mod num den
  have hnum' := Nat.div_add_mod num' den
  rcases hdiv.lt_or_eq with hlt | heq
  · -- Both are rounded to one of their neighbours.
    rcases roundHalfEven_cases num den with ⟨-, hr⟩ | ⟨-, hr⟩ | ⟨-, hr⟩ <;>
      rcases roundHalfEven_cases num' den with ⟨-, hr'⟩ | ⟨-, hr'⟩ | ⟨-, hr'⟩ <;> omega
  · rw [heq] at hnum
    have hmod : num % den ≤ num' % den := by omega
    rcases roundHalfEven_cases num den with ⟨_, hr⟩ | ⟨_, hr⟩ | ⟨_, hr⟩ <;>
      rcases roundHalfEven_cases num' den with ⟨_, hr'⟩ | ⟨_, hr'⟩ | ⟨_, hr'⟩ <;> omega

theorem le_roundHalfEven {a : Nat} (hden : 0 < den) (h : a * den ≤ num) : a ≤ roundHalfEven num den :=
  roundHalfEven_mul a hden ▸ roundHalfEven_mono h

theorem roundHalfEven_le_of_le {a : Nat} (hden : 0 < den) (h : num ≤ a * den) : roundHalfEven num den ≤ a :=
  roundHalfEven_mul a hden ▸ roundHalfEven_mono h

end

/-! ### The nearest integer with 53 bits and a power of two -/

/-- The distance of the binary64 numbers around this one, if that is not less than 1. -/
def step (n : Nat) : Nat := 2 ^ (n.log2 - 52)

theorem step_pos (n : Nat) : 0 < step n := Nat.two_pow_pos _

def nearestNat (n : Nat) : Nat := roundHalfEven n (step n) * step n

/-- The integer that is a binary64 number and nearest to this one, ties to even. -/
def nearest (n : Int) : Int := if n < 0 then -(nearestNat n.natAbs : Int) else nearestNat n.natAbs

theorem nearestNat_of_dvd {n : Nat} (h : step n ∣ n) : nearestNat n = n := by
  have hpos := step_pos n
  rw [nearestNat]
  generalize step n = s at h hpos
  obtain ⟨a, rfl⟩ := h
  rw [Nat.mul_comm s a, roundHalfEven_mul a hpos]

theorem nearestNat_of_le {n : Nat} (h : n ≤ 2 ^ 53) : nearestNat n = n := by
  refine nearestNat_of_dvd ?_
  rcases h.lt_or_eq with hlt | rfl
  · have hlog : n.log2 - 52 = 0 := by
      have := log2_lt_of_lt_pow (by decide) hlt
      omega
    rw [step, hlog]
    exact Nat.one_dvd n
  · exact ⟨2 ^ 52, by decide⟩

theorem pow_mul_step {n a : Nat} (h : 52 ≤ n.log2) (ha : 52 ≤ a) : 2 ^ a * step n = 2 ^ (n.log2 + (a - 52)) := by
  rw [step, ← Nat.pow_add]
  congr 1
  omega

/-- The powers of two around a number are multiples of its step, or the number has 53 bits. -/
theorem pow_log2_le_nearestNat {n : Nat} (hn : n ≠ 0) : 2 ^ n.log2 ≤ nearestNat n := by
  have hle := Nat.log2_self_le hn
  rcases Nat.lt_or_ge n.log2 52 with hlog | hlog
  · have hlt : n < 2 ^ 53 := Nat.lt_log2_self.trans_le (Nat.pow_le_pow_right (by decide) (by omega))
    rwa [nearestNat_of_le hlt.le]
  · rw [← Nat.add_zero n.log2, ← pow_mul_step hlog (le_refl 52)] at hle ⊢
    exact Nat.mul_le_mul_right _ (le_roundHalfEven (step_pos n) hle)

theorem nearestNat_le_pow_log2 (n : Nat) : nearestNat n ≤ 2 ^ (n.log2 + 1) := by
  have hlt : n < 2 ^ (n.log2 + 1) := Nat.lt_log2_self
  rcases Nat.lt_or_ge n.log2 52 with hlog | hlog
  · have hn : n < 2 ^ 53 := hlt.trans_le (Nat.pow_le_pow_right (by decide) (by omega))
    rw [nearestNat_of_le hn.le]
    exact hlt.le
  · rw [← pow_mul_step (a := 53) hlog (by decide)] at hlt ⊢
    exact Nat.mul_le_mul_right _ (roundHalfEven_le_of_le (step_pos n) hlt.le)

theorem nearestNat_mono {m n : Nat} (h : m ≤ n) : nearestNat m ≤ nearestNat n := by
  by_cases hm : m = 0
  · rw [hm, nearestNat_of_le (Nat.zero_le _)]
    exact Nat.zero_le _
  · have hn : n ≠ 0 := by omega
    have hlog : m.log2 ≤ n.log2 := (Nat.le_log2 hn).2 ((Nat.log2_self_le hm).trans h)
    rcases hlog.lt_or_eq with hlt | heq
    · -- A power of two stands between them.
      calc nearestNat m ≤ 2 ^ (m.log2 + 1) := nearestNat_le_pow_log2 m
        _ ≤ 2 ^ n.log2 := Nat.pow_le_pow_right (by decide) hlt
        _ ≤ nearestNat n := pow_log2_le_nearestNat hn
    · have hstep : step m = step n := by rw [step, step, heq]
      rw [nearestNat, nearestNat, hstep]
      exact Nat.mul_le_mul_right _ (roundHalfEven_mono h)

/-! #### Nothing is closer -/

theorem even_of_tie (n : Nat) {s t : Nat} (hs : 0 < s) (hne : t * s ≠ roundHalfEven n s * s)
    (htie : ((n : Int) - (t * s : Nat)).natAbs = ((n : Int) - (roundHalfEven n s * s : Nat)).natAbs) :
    roundHalfEven n s % 2 = 0 := by
  have hn := Nat.div_add_mod n s
  have hmod := Nat.mod_lt n hs
  rw [Nat.mul_comm] at hn
  have hsucc : (n / s + 1) * s = n / s * s + s := by rw [Nat.add_mul, Nat.one_mul]
  have ht : (t + 1) * s ≤ n / s * s ∨ t = n / s ∨ t = n / s + 1 ∨ (n / s + 1) * s + s ≤ t * s := by
    rcases Nat.lt_trichotomy t (n / s) with h | h | h
    · exact .inl (Nat.mul_le_mul_right s h)
    · exact .inr (.inl h)
    · rcases Nat.eq_or_lt_of_le h with h | h
      · exact .inr (.inr (.inl h.symm))
      · refine .inr (.inr (.inr ?_))
        rw [← Nat.succ_mul]
        exact Nat.mul_le_mul_right s h
  rw [Nat.add_mul, Nat.one_mul] at ht
  rcases roundHalfEven_cases n s with ⟨h, hr⟩ | ⟨h, hr⟩ | ⟨h, hr⟩
  · rw [hr] at hne htie
    rcases ht with ht | rfl | rfl | ht <;> omega
  · rw [hr] at hne htie
    rcases ht with ht | rfl | rfl | ht <;> omega
  · omega

/-- 53 bits and a power of two can write this number. -/
def IsExact (n : Nat) : Prop := ∃ m k, m < 2 ^ 53 ∧ n = m * 2 ^ k

theorem isExact_nearestNat (n : Nat) : IsExact (nearestNat n) := by
  have hn : n ≤ 2 ^ 53 * step n := by
    rw [step, ← Nat.pow_add]
    exact Nat.lt_log2_self.le.trans (Nat.pow_le_pow_right (by decide) (by omega))
  rcases (roundHalfEven_le_of_le (step_pos n) hn).lt_or_eq with hlt | heq
  · exact ⟨_, _, hlt, rfl⟩
  · -- Rounded up to a power of two, it has fewer bits.
    refine ⟨2 ^ 52, n.log2 - 52 + 1, by decide, ?_⟩
    rw [nearestNat, heq, step, ← Nat.pow_add, ← Nat.pow_add]
    congr 1
    omega

theorem closest_multiple (n : Nat) {s : Nat} (hs : 0 < s) (t : Nat) :
    ((n : Int) - (roundHalfEven n s * s : Nat)).natAbs ≤ ((n : Int) - (t * s : Nat)).natAbs := by
  have hn := Nat.div_add_mod n s
  have hmod := Nat.mod_lt n hs
  rw [Nat.mul_comm] at hn
  have hsucc : (n / s + 1) * s = n / s * s + s := by rw [Nat.add_mul, Nat.one_mul]
  have ht : t * s ≤ n / s * s ∨ (n / s + 1) * s ≤ t * s := by
    rcases Nat.lt_or_ge (n / s) t with h | h
    · exact .inr (Nat.mul_le_mul_right s h)
    · exact .inl (Nat.mul_le_mul_right s h)
  have hround : (2 * (n % s) ≤ s ∧ roundHalfEven n s * s = n / s * s) ∨
      (s ≤ 2 * (n % s) ∧ roundHalfEven n s * s = (n / s + 1) * s) := by
    rcases roundHalfEven_cases n s with ⟨h, hr⟩ | ⟨h, hr⟩ | ⟨h, hr⟩
    · exact .inl ⟨h.le, by rw [hr]⟩
    · exact .inr ⟨h.le, by rw [hr]⟩
    · rcases Nat.mod_two_eq_zero_or_one (n / s) with heven | hodd
      · exact .inl ⟨h.le, by rw [hr, heven, Nat.add_zero]⟩
      · exact .inr ⟨h.ge, by rw [hr, hodd]⟩
  omega

/-- A number that is no multiple of the step has too few bits to be close. -/
theorem dvd_or_lt_of_isExact {n r : Nat} (hr : IsExact r) : step n ∣ r ∨ n ≠ 0 ∧ 52 ≤ n.log2 ∧ r < 2 ^ n.log2 := by
  obtain ⟨m, k, hm, rfl⟩ := hr
  rcases Nat.lt_or_ge k (n.log2 - 52) with hk | hk
  · refine .inr ⟨by rintro rfl; simp at hk, by omega, ?_⟩
    calc m * 2 ^ k < 2 ^ 53 * 2 ^ k := Nat.mul_lt_mul_of_pos_right hm (Nat.two_pow_pos k)
      _ = 2 ^ (53 + k) := (Nat.pow_add 2 53 k).symm
      _ ≤ 2 ^ n.log2 := Nat.pow_le_pow_right (by decide) (by omega)
  · exact .inl (Nat.dvd_trans (Nat.pow_dvd_pow 2 hk) (Nat.dvd_mul_left _ m))

theorem closest_pow_log2 {n : Nat} (hlog : 52 ≤ n.log2) :
    ((n : Int) - nearestNat n).natAbs ≤ ((n : Int) - (2 ^ n.log2 : Nat)).natAbs := by
  have hclosest := closest_multiple n (step_pos n) (2 ^ 52)
  rwa [pow_mul_step hlog (le_refl 52)] at hclosest

theorem nearestNat_closest (n : Nat) {r : Nat} (hr : IsExact r) :
    ((n : Int) - nearestNat n).natAbs ≤ ((n : Int) - r).natAbs := by
  rcases dvd_or_lt_of_isExact (n := n) hr with ⟨t, rfl⟩ | ⟨hn, hlog, hlt⟩
  · rw [Nat.mul_comm]
    exact closest_multiple n (step_pos n) t
  · have hle := Nat.log2_self_le hn
    have hclosest := closest_pow_log2 hlog
    omega

/-- Of two that are as close, the one whose last bit is 0 is taken. -/
theorem two_mul_step_dvd (n : Nat) {r : Nat} (hr : IsExact r) (hne : r ≠ nearestNat n)
    (htie : ((n : Int) - r).natAbs = ((n : Int) - nearestNat n).natAbs) : 2 * step n ∣ nearestNat n := by
  rcases dvd_or_lt_of_isExact (n := n) hr with ⟨t, rfl⟩ | ⟨hn, hlog, hlt⟩
  · rw [Nat.mul_comm] at hne htie
    rw [nearestNat] at hne htie ⊢
    exact Nat.mul_dvd_mul_right (Nat.dvd_of_mod_eq_zero (even_of_tie n (step_pos n) hne htie)) _
  · have hle := Nat.log2_self_le hn
    have hclosest := closest_pow_log2 hlog
    omega

theorem nearest_natCast (n : Nat) : nearest n = nearestNat n := by
  rw [nearest, if_neg (by omega), Int.natAbs_natCast]

theorem nearest_neg (n : Int) : nearest (-n) = -nearest n := by
  have hzero : nearestNat 0 = 0 := nearestNat_of_le (Nat.zero_le _)
  rcases Int.lt_trichotomy n 0 with h | rfl | h
  · rw [nearest, nearest, if_neg (by omega), if_pos h, Int.natAbs_neg, Int.neg_neg]
  · simp [nearest, hzero]
  · rw [nearest, nearest, if_pos (by omega), if_neg (by omega), Int.natAbs_neg]

/-- A binary64 number that is an integer, none is closer to `n`, and of two that are as close its last bit is 0. -/
structure IsNearest (n r : Int) : Prop where
  exact : IsExact r.natAbs
  closest : ∀ r' : Int, IsExact r'.natAbs → (n - r).natAbs ≤ (n - r').natAbs
  even : ∀ r' : Int, IsExact r'.natAbs → r' ≠ r → (n - r').natAbs = (n - r).natAbs → 2 * step n.natAbs ∣ r.natAbs

theorem isNearest_natCast (n : Nat) : IsNearest n (nearestNat n) where
  exact := isExact_nearestNat n
  closest r' hr' := by
    rcases r'.eq_nat_or_neg with ⟨r, rfl | rfl⟩
    · exact nearestNat_closest n (Int.natAbs_natCast r ▸ hr')
    · -- Zero is closer than the numbers beyond it.
      have hzero := nearestNat_closest n (r := 0) ⟨0, 0, by decide, rfl⟩
      omega
  even r' hr' hne htie := by
    rcases r'.eq_nat_or_neg with ⟨r, rfl | rfl⟩
    · exact two_mul_step_dvd n (Int.natAbs_natCast r ▸ hr') (by omega) htie
    · rcases Nat.eq_zero_or_pos r with rfl | hpos
      · exact two_mul_step_dvd n ⟨0, 0, by decide, rfl⟩ (by omega) (by simpa using htie)
      · have hzero := nearestNat_closest n (r := 0) ⟨0, 0, by decide, rfl⟩
        omega

theorem IsNearest.neg {n r : Int} (h : IsNearest n r) : IsNearest (-n) (-r) where
  exact := by
    rw [Int.natAbs_neg]
    exact h.exact
  closest r' hr' := by
    have := h.closest (-r') (by rwa [Int.natAbs_neg])
    omega
  even r' hr' hne htie := by
    rw [Int.natAbs_neg, Int.natAbs_neg]
    exact h.even (-r') (by rwa [Int.natAbs_neg]) (by omega) (by omega)

theorem isNearest_nearest (n : Int) : IsNearest n (nearest n) := by
  rcases n.eq_nat_or_neg with ⟨k, rfl | rfl⟩
  · rw [nearest_natCast]
    exact isNearest_natCast k
  · rw [nearest_neg, nearest_natCast]
    exact (isNearest_natCast k).neg

theorem nearest_of_le {n : Int} (h : n.natAbs ≤ 2 ^ 53) : nearest n = n := by
  rw [nearest, nearestNat_of_le h]
  split <;> omega

theorem nearest_mono {m n : Int} (h : m ≤ n) : nearest m ≤ nearest n := by
  rw [nearest, nearest]
  split
  · split
    · exact Int.neg_le_neg (Int.ofNat_le.2 (nearestNat_mono (by omega)))
    · omega
  · rw [if_neg (by omega)]
    exact Int.ofNat_le.2 (nearestNat_mono (by omega))

/-- Where one of two integers has 53 bits, they are told apart. -/
theorem nearest_lt_nearest_iff {m n : Int} (h : m.natAbs < 2 ^ 53 ∨ n.natAbs < 2 ^ 53) :
    nearest m < nearest n ↔ m < n := by
  constructor
  · intro hlt
    by_contra hle
    exact absurd (nearest_mono (Int.not_lt.1 hle)) (Int.not_le.2 hlt)
  · intro hlt
    rcases h with h | h
    · calc nearest m = m := nearest_of_le h.le
        _ < m + 1 := Int.lt_succ m
        _ = nearest (m + 1) := (nearest_of_le (by omega)).symm
        _ ≤ nearest n := nearest_mono hlt
    · calc nearest m ≤ nearest (n - 1) := nearest_mono (by omega)
        _ = n - 1 := nearest_of_le (by omega)
        _ < n := by omega
        _ = nearest n := (nearest_of_le h.le).symm

/-! ### The sizes of finite numbers -/

namespace Finite

/-- The size of the number with a pattern, which grows with the pattern. -/
def patternUnits (pattern : Nat) : Nat :=
  (if pattern < leadingBit then pattern else leadingBit + pattern % leadingBit) * 2 ^ (pattern / leadingBit - 1)

theorem units_eq (x : Finite) : x.units = patternUnits x.pattern := rfl

theorem leadingBit_pos : 0 < leadingBit := by decide

/-- A mantissa of 53 bits, or one that has been rounded up to the next power of two. -/
theorem patternUnits_add {shift m : Nat} (hle : leadingBit ≤ m) (hm : m ≤ 2 * leadingBit) :
    patternUnits (shift * leadingBit + m) = m * 2 ^ shift := by
  have hpos := leadingBit_pos
  rw [patternUnits]
  generalize leadingBit = bit at hle hm hpos
  rw [if_neg (by have := Nat.zero_le (shift * bit); omega)]
  rcases hm.lt_or_eq with hlt | rfl
  · obtain ⟨r, rfl⟩ := Nat.exists_eq_add_of_le hle
    have hr : r < bit := by omega
    have hsplit : shift * bit + (bit + r) = r + bit * (shift + 1) := by ring
    rw [hsplit, Nat.add_mul_mod_self_left, Nat.add_mul_div_left _ _ hpos, Nat.mod_eq_of_lt hr, Nat.div_eq_of_lt hr,
      Nat.zero_add, Nat.add_sub_cancel]
  · have hsplit : shift * bit + 2 * bit = bit * (shift + 2) := by ring
    rw [hsplit, Nat.mul_mod_right, Nat.mul_div_cancel_left _ hpos, Nat.add_zero]
    show bit * 2 ^ (shift + 1) = _
    rw [Nat.pow_succ]
    ring

theorem patternUnits_of_lt {pattern : Nat} (h : pattern < leadingBit) : patternUnits pattern = pattern := by
  rw [patternUnits, if_pos h, Nat.div_eq_of_lt h]
  exact Nat.mul_one pattern

theorem strictMono_patternUnits : StrictMono patternUnits := by
  refine strictMono_nat_of_lt_succ fun pattern => ?_
  have hpos := leadingBit_pos
  rcases Nat.lt_or_ge pattern leadingBit with hlt | hge
  · rw [patternUnits_of_lt hlt]
    rcases Nat.lt_or_ge (pattern + 1) leadingBit with hlt' | hge'
    · rw [patternUnits_of_lt hlt']
      exact Nat.lt_succ_self _
    · have heq : pattern + 1 = 0 * leadingBit + leadingBit := by omega
      rw [heq, patternUnits_add (le_refl _) (by omega)]
      omega
  · -- The next mantissa of the same shift.
    have hsplit := Nat.div_add_mod pattern leadingBit
    have hmod := Nat.mod_lt pattern hpos
    obtain ⟨shift, hshift⟩ := Nat.exists_eq_add_of_le (Nat.div_pos hge hpos)
    have heq : pattern = shift * leadingBit + (leadingBit + pattern % leadingBit) := by
      rw [hshift] at hsplit
      rw [← Nat.add_assoc, ← Nat.succ_mul, Nat.mul_comm, Nat.succ_eq_one_add]
      exact hsplit.symm
    have heq' : pattern + 1 = shift * leadingBit + (leadingBit + pattern % leadingBit + 1) := by omega
    rw [heq', patternUnits_add (by omega) (by omega)]
    conv_lhs => rw [heq, patternUnits_add (by omega) (by omega)]
    exact Nat.mul_lt_mul_of_pos_right (Nat.lt_succ_self _) (Nat.two_pow_pos shift)

def value (x : Finite) : Int := if x.negative then -(x.units : Int) else x.units

theorem rank_lt_rank_iff {x y : Finite} : x.rank < y.rank ↔ x.value < y.value := by
  have hlt (p q : Nat) : patternUnits p < patternUnits q ↔ p < q := strictMono_patternUnits.lt_iff_lt
  have hxy := hlt x.pattern y.pattern
  have hyx := hlt y.pattern x.pattern
  have hx := hlt 0 x.pattern
  have hy := hlt 0 y.pattern
  have hzero : patternUnits 0 = 0 := rfl
  rw [rank, rank, value, value, units_eq, units_eq]
  cases x.negative <;> cases y.negative <;> simp only [if_true, Bool.false_eq_true, if_false] <;> omega

end Finite

/-! ### The number of an integer -/

theorem log2_mul_pow {n : Nat} (hn : n ≠ 0) (d : Nat) : (n * 2 ^ d).log2 = n.log2 + d := by
  have hpos := Nat.two_pow_pos d
  refine (Nat.log2_eq_iff (Nat.mul_ne_zero hn hpos.ne')).2 ⟨?_, ?_⟩
  · rw [Nat.pow_add]
    exact Nat.mul_le_mul_right _ (Nat.log2_self_le hn)
  · rw [Nat.add_right_comm, Nat.pow_add]
    exact Nat.mul_lt_mul_of_pos_right Nat.lt_log2_self hpos

/-- In units that divide the step, an integer is rounded to its nearest one, with a mantissa of 53 bits. -/
theorem roundHalfEven_scaled {n d : Nat} (hn : n ≠ 0) (hd : 52 ≤ d) :
    2 ^ 52 ≤ roundHalfEven (n * 2 ^ d) (2 ^ (n.log2 + d - 52)) ∧
      roundHalfEven (n * 2 ^ d) (2 ^ (n.log2 + d - 52)) ≤ 2 ^ 53 ∧
      roundHalfEven (n * 2 ^ d) (2 ^ (n.log2 + d - 52)) * 2 ^ (n.log2 + d - 52) = nearestNat n * 2 ^ d := by
  have hle := Nat.log2_self_le hn
  have hlt : n < 2 ^ (n.log2 + 1) := Nat.lt_log2_self
  rcases Nat.lt_or_ge n.log2 52 with hlog | hlog
  · have hpow : 2 ^ d = 2 ^ (52 - n.log2) * 2 ^ (n.log2 + d - 52) := by
      rw [← Nat.pow_add]
      congr 1
      omega
    have hself : nearestNat n = n :=
      nearestNat_of_le (hlt.le.trans (Nat.pow_le_pow_right (by decide) (by omega)))
    rw [hself, hpow, ← Nat.mul_assoc, roundHalfEven_mul _ (Nat.two_pow_pos _)]
    refine ⟨?_, ?_, rfl⟩
    · calc 2 ^ 52 = 2 ^ n.log2 * 2 ^ (52 - n.log2) := by rw [← Nat.pow_add]; congr 1; omega
        _ ≤ n * 2 ^ (52 - n.log2) := Nat.mul_le_mul_right _ hle
    · calc n * 2 ^ (52 - n.log2) ≤ 2 ^ (n.log2 + 1) * 2 ^ (52 - n.log2) := Nat.mul_le_mul_right _ hlt.le
        _ = 2 ^ 53 := by rw [← Nat.pow_add]; congr 1; omega
  · have hpow : 2 ^ (n.log2 + d - 52) = step n * 2 ^ d := by
      rw [step, ← Nat.pow_add]
      congr 1
      omega
    rw [hpow, roundHalfEven_mul_mul (Nat.two_pow_pos d), ← Nat.mul_assoc]
    rw [← Nat.add_zero n.log2, ← pow_mul_step hlog (le_refl 52)] at hle
    rw [← pow_mul_step (a := 53) hlog (by decide)] at hlt
    exact ⟨le_roundHalfEven (step_pos n) hle, roundHalfEven_le_of_le (step_pos n) hlt.le, rfl⟩

theorem patternUnits_roundedPattern (n : Nat) :
    Finite.patternUnits (roundedPattern n 1) = nearestNat n * denominator := by
  have hpow (d : Nat) : Nat.pow 2 d = 2 ^ d := rfl
  have hbit : leadingBit = 2 ^ 52 := rfl
  rcases Nat.eq_zero_or_pos n with rfl | hpos
  · rw [nearestNat_of_le (Nat.zero_le _), Nat.zero_mul, roundedPattern]
    simp only [Nat.zero_mul, Nat.zero_div, Nat.log2_zero, Nat.zero_sub, Nat.zero_add]
    rfl
  · unfold roundedPattern denominator
    generalize hd : 1074 = d
    simp only [Nat.div_one, Nat.one_mul, hpow, log2_mul_pow hpos.ne']
    obtain ⟨hle, hle', hscaled⟩ := roundHalfEven_scaled hpos.ne' (show 52 ≤ d by omega)
    have hdouble : (2 : Nat) ^ 53 = 2 * 2 ^ 52 := by decide
    rw [hdouble, ← hbit] at hle'
    rw [← hbit] at hle
    rw [Finite.patternUnits_add hle hle', hscaled]

theorem value_of_ofRatio? {i : Int} {x : Finite} (h : Finite.ofRatio? (decide (i < 0)) i.natAbs 1 = some x) :
    x.value = nearest i * denominator := by
  unfold Finite.ofRatio? at h
  split at h
  · cases h
    rw [Finite.value, Finite.units_eq, patternUnits_roundedPattern, nearest]
    by_cases hneg : i < 0
    · rw [if_pos (decide_eq_true hneg), if_pos hneg, Int.natCast_mul, Int.neg_mul]
    · rw [if_neg (by simpa using hneg), if_neg hneg, Int.natCast_mul]
  · cases h

theorem exists_toBinary64_integer {i : Int} (hi : i.natAbs < 2 ^ 64) :
    ∃ x : Finite, (JsonNumber.integer i).toBinary64 = .finite x ∧ x.value = nearest i * denominator := by
  have hsome : Finite.ofRatio? (decide (i < 0)) i.natAbs 1 = some ⟨_, _, roundedPattern_lt hi⟩ :=
    dif_pos (roundedPattern_lt hi)
  exact ⟨_, ofRatio_eq_finite hsome, value_of_ofRatio? hsome⟩

theorem compare_eq_compare {a b c d : Int} (h : a < b ↔ c < d) (h' : b < a ↔ d < c) : compare a b = compare c d := by
  rcases Int.lt_trichotomy c d with hlt | heq | hgt
  · rw [compare_lt_iff_lt.2 hlt, compare_lt_iff_lt.2 (h.2 hlt)]
  · rw [compare_eq_iff_eq.2 heq, compare_eq_iff_eq.2 (by omega)]
  · rw [compare_gt_iff_gt.2 hgt, compare_gt_iff_gt.2 (h'.2 hgt)]

theorem compare?_finite (x y : Finite) : (finite x).compare? (finite y) = some (compare x.value y.value) :=
  congrArg some (compare_eq_compare Finite.rank_lt_rank_iff Finite.rank_lt_rank_iff)

/-- Integers of 64 bits are compared as the nearest binary64 numbers are. -/
theorem compare?_integer {i j : Int} (hi : i.natAbs < 2 ^ 64) (hj : j.natAbs < 2 ^ 64) :
    (JsonNumber.integer i).toBinary64.compare? (JsonNumber.integer j).toBinary64 =
      some (compare (nearest i) (nearest j)) := by
  obtain ⟨x, hx, hvalue⟩ := exists_toBinary64_integer hi
  obtain ⟨y, hy, hvalue'⟩ := exists_toBinary64_integer hj
  have hpos : (0 : Int) < denominator := Int.ofNat_lt.2 (by decide +kernel)
  have hlt (a b : Int) : a * denominator < b * denominator ↔ a < b :=
    ⟨fun h => Int.lt_of_mul_lt_mul_right h hpos.le, fun h => Int.mul_lt_mul_of_pos_right h hpos⟩
  rw [hx, hy, compare?_finite, hvalue, hvalue', compare_eq_compare (hlt _ _) (hlt _ _)]

end Binary64

end DataGrid
