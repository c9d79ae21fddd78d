import DataGrid.Page

/-!
# Pages of ranges

A range that is not empty and does not start before the first row has a page of as many rows, which
starts at the last multiple of that number up to the start of the range (`exists_ofRange`). So it is the
range itself where ranges are blocks of one size (`exists_ofRange_block`).
-/

namespace DataGrid.Page

/-- A multiple of `b` up to `a` has no more than 64 bits, so the product does not wrap. -/
theorem toNat_div_mul (a b : UInt64) : (a / b * b).toNat = a.toNat / b.toNat * b.toNat := by
  rw [UInt64.toNat_mul, UInt64.toNat_div]
  exact Nat.mod_eq_of_lt (Nat.lt_of_le_of_lt (Nat.div_mul_le_self ..) a.toNat_lt)

section
variable {start stop : Int64} (hstart : 0 ≤ start) (h : start < stop)
include hstart h

theorem sub_pos : 0 < stop - start := by
  rw [Int64.lt_iff_toInt_lt] at h ⊢
  rw [Int64.toInt_sub_of_le _ _ hstart (Int64.le_iff_toInt_le.2 (Int.le_of_lt h))]
  exact Int.sub_pos_of_lt h

/-- The size of a range is the difference of its bounds: that is no more than the upper one. -/
theorem toNat_sub : (stop - start).toUInt64.toNat = stop.toNatClampNeg - start.toNatClampNeg := by
  rw [Int64.toNat_toUInt64_of_le (Int64.le_of_lt (sub_pos hstart h)),
    Int64.toNatClampNeg_sub_of_le hstart (Int64.le_of_lt h)]

theorem ofRange_eq_ok (sort : List Sort.Key) : ofRange (some start) (some stop) sort =
    .ok ⟨start.toUInt64 / (stop - start).toUInt64, (stop - start).toUInt64, sort⟩ := by
  have hempty : ¬ stop ≤ start := Int64.not_le.2 h
  have hnegative : ¬ start < 0 := Int64.not_lt.2 hstart
  have hsize : ¬ stop - start ≤ 0 := Int64.not_le.2 (sub_pos hstart h)
  rw [ofRange, if_neg hempty, if_neg hnegative]
  exact if_neg hsize

theorem exists_ofRange (sort : List Sort.Key) :
    ∃ page, ofRange (some start) (some stop) sort = .ok page ∧
      page.size.toNat = stop.toNatClampNeg - start.toNatClampNeg ∧
      page.offset.toNat = start.toNatClampNeg / page.size.toNat * page.size.toNat := by
  refine ⟨_, ofRange_eq_ok hstart h sort, toNat_sub hstart h, ?_⟩
  rw [offset, toNat_div_mul, Int64.toNat_toUInt64_of_le hstart]

end

/-- The page of a block is the block. -/
theorem exists_ofRange_block {size index : Nat} (hsize : 1 ≤ size)
    (hmax : (index + 1) * size ≤ Int64.maxValue.toNatClampNeg) (sort : List Sort.Key) :
    ∃ page, ofRange (some (.ofNat (index * size))) (some (.ofNat ((index + 1) * size))) sort = .ok page ∧
      page.size.toNat = size ∧ page.offset.toNat = index * size := by
  have hlt : index * size < (index + 1) * size := Nat.mul_lt_mul_of_pos_right (Nat.lt_succ_self _) hsize
  have hlast : (index + 1) * size < 2 ^ 63 := Nat.lt_of_le_of_lt hmax (Int64.toNatClampNeg_lt _)
  have hfirst : index * size < 2 ^ 63 := Nat.lt_trans hlt hlast
  have hstart : 0 ≤ Int64.ofNat (index * size) := by
    rw [Int64.le_iff_toInt_le, Int64.toInt_ofNat_of_lt hfirst]
    exact Int.natCast_nonneg _
  have hbounds : Int64.ofNat (index * size) < Int64.ofNat ((index + 1) * size) := by
    rw [Int64.lt_iff_toInt_lt, Int64.toInt_ofNat_of_lt hfirst, Int64.toInt_ofNat_of_lt hlast]
    exact Int.ofNat_lt.2 hlt
  obtain ⟨page, hpage, hrows, hoffset⟩ := exists_ofRange hstart hbounds sort
  rw [Int64.toNatClampNeg_ofNat_of_lt hfirst, Int64.toNatClampNeg_ofNat_of_lt hlast, Nat.succ_mul,
    Nat.add_sub_cancel_left] at hrows
  rw [Int64.toNatClampNeg_ofNat_of_lt hfirst, hrows, Nat.mul_div_cancel _ hsize] at hoffset
  exact ⟨page, hpage, hrows, hoffset⟩

end DataGrid.Page
