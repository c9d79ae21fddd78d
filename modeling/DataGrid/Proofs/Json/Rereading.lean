import DataGrid.Proofs.Json.Scaling

/-!
# Numbers that are read and written again

A number that is written and read is not always the number that was written. Integers are, and so is every number
with few digits; any other comes back with its sign and at most two places away (`comesBackAs_reread`).
-/

namespace DataGrid

open Binary64

namespace JsonNumber

/-- An integer of 64 bits, with a sign or without one, or a finite binary64 number. -/
def Is64Bit : JsonNumber → Prop
  | .integer i => -9223372036854775808 ≤ i ∧ i ≤ 18446744073709551615
  | .real _ => True

/-- The text of the one number is a numeral for the other one. -/
def ReadAs (n m : JsonNumber) : Prop := ∃ parts, scan n.chars = .numeral parts [] ∧ parts.value? = some m

instance (n m : JsonNumber) : Decidable (n.ReadAs m) :=
  decidable_of_iff ((match scan n.chars with
      | .numeral parts [] => decide (parts.value? = some m)
      | _ => false) = true) (by
    unfold ReadAs
    split
    · next parts heq => simp [heq]
    · next hne => exact ⟨nofun, fun ⟨parts, hscan, _⟩ => (hne parts hscan).elim⟩)

/-- The number that the text of a number is decoded as. -/
def reread (n : JsonNumber) : JsonNumber :=
  match Json.decode Json.Reader.value (Json.compact (.number n)) with
  | .ok (.number m) => m
  | _ => n

theorem ReadAs.reread_eq {n m : JsonNumber} (h : n.ReadAs m) : n.reread = m := by
  obtain ⟨parts, hscan, hvalue⟩ := h
  let numeral : Json.Numeral := ⟨n.chars, parts, hscan⟩
  have hdecode : Json.decode Json.Reader.value (Json.compact (.number n)) = .ok (.number m) := by
    have htext : Json.compact (.number n) = (Json.Source.number numeral).text .none .none := by
      rw [Json.Source.text, Json.Space.none, List.append_nil, List.nil_append]
      rfl
    rw [htext, Json.decode_source, Json.Reader.value, Json.Source.tree, hvalue]
    rfl
  rw [reread, hdecode]

end JsonNumber

theorem Binary64.Finite.eq_of_pattern {x y : Finite} (hnegative : x.negative = y.negative)
    (hpattern : x.pattern = y.pattern) : x = y := by
  cases x
  cases y
  simp_all

namespace JsonNumber

theorem chars_real_injective {x y : Finite} (h : chars (.real x) = chars (.real y)) : x = y := by
  obtain ⟨p, hp⟩ := exists_denotes x
  obtain ⟨q, hq⟩ := exists_denotes y
  have hscan := hp.scan_eq
  rw [h, hq.scan_eq] at hscan
  cases hscan
  exact Finite.eq_of_pattern (hp.negative_eq.symm.trans hq.negative_eq) (hp.pattern_eq.symm.trans hq.pattern_eq)

/-! ### Numbers with a fraction or an exponent -/

theorem readAs_zero : ∀ negative, ReadAs (.real ⟨negative, 0, by decide⟩) (.real ⟨negative, 0, by decide⟩) := by
  decide +kernel

/-- The two largest numbers are read as the largest one. -/
theorem readAs_largest {pattern : Nat} (negative : Bool) (h : infinityPattern ≤ pattern + 2)
    (hlt : pattern < infinityPattern) :
    ReadAs (.real ⟨negative, pattern, hlt⟩) (.real ⟨negative, infinityPattern - 1, by decide⟩) := by
  have hlargest : ∀ negative, ReadAs (.real ⟨negative, infinityPattern - 1, by decide⟩)
      (.real ⟨negative, infinityPattern - 1, by decide⟩) := by
    decide +kernel
  have hsecond : ∀ negative, ReadAs (.real ⟨negative, infinityPattern - 2, by decide⟩)
      (.real ⟨negative, infinityPattern - 1, by decide⟩) := by
    decide +kernel
  obtain rfl | rfl : pattern = infinityPattern - 1 ∨ pattern = infinityPattern - 2 := by omega
  · exact hlargest negative
  · exact hsecond negative

/-- Exact digits and an exact power of ten are far from the largest numbers. -/
theorem decimalPattern_lt {w : Nat} {e : Int} (hw : w ≤ 2 ^ 53) (he : e ≤ 22) :
    decimalPattern w e + 2 < infinityPattern := by
  have hpos : 0 < 10 ^ (-e).toNat := Nat.pow_pos (by decide)
  have hbound : roundedPattern (2 ^ 53 * 10 ^ 22) 1 + 2 < infinityPattern := by decide +kernel
  have hle : decimalPattern w e ≤ roundedPattern (2 ^ 53 * 10 ^ 22) 1 := by
    refine roundedPattern_mono hpos Nat.one_pos ?_
    rw [Nat.mul_one]
    exact (Nat.mul_le_mul hw (Nat.pow_le_pow_right (by decide) (by omega))).trans (Nat.le_mul_of_pos_right _ hpos)
  omega

theorem exists_value? {p : Parts} {x : Finite} (h : Denotes p x) (hx : x.pattern ≠ 0)
    (hfinite : x.pattern + 2 < infinityPattern) :
    ∃ y, p.value? = some (.real y) ∧ y.negative = x.negative ∧ Scaled p.significand p.place y := by
  have hpattern : decimalPattern p.significand p.place = x.pattern := h.pattern_eq
  have hpos : 0 < p.significand := by
    refine Nat.pos_of_ne_zero fun hzero => hx ?_
    rw [← hpattern, hzero, decimalPattern_zero]
  rw [← hpattern] at hfinite
  obtain ⟨y, hy, hnegative, hscaled⟩ := exists_scale? p.negative hpos h.fits h.le_place hfinite
  have hclamp : clampExponent p.place = p.place := by
    have hle := h.le_place
    have hle' := place_le hpos (Nat.lt_of_add_right_lt hfinite)
    rw [clampExponent, if_neg (by omega), if_neg (by omega)]
  refine ⟨y, ?_, hnegative.trans h.negative_eq, hscaled⟩
  rw [Parts.value?_eq_scale? h.form h.fits, hclamp, hy, Option.map_some]

theorem exists_readAs_real (x : Finite) : ∃ y, ReadAs (.real x) (.real y) ∧ y.negative = x.negative ∧
    Near y.pattern x.pattern ∧ ∀ p, scan (chars (.real x)) = .numeral p [] → p.significand ≤ 2 ^ 53 →
      p.place.natAbs ≤ 22 → y = x := by
  obtain ⟨negative, pattern, hlt⟩ := x
  rcases Nat.eq_zero_or_pos pattern with rfl | hpos
  · exact ⟨_, readAs_zero negative, rfl, ⟨by omega, by omega⟩, fun _ _ _ _ => rfl⟩
  obtain ⟨p, hp⟩ := exists_denotes ⟨negative, pattern, hlt⟩
  rcases Nat.lt_or_ge (pattern + 2) infinityPattern with hfinite | hlarge
  · obtain ⟨y, hvalue, hnegative, hscaled⟩ := exists_value? hp hpos.ne' hfinite
    have hpattern : decimalPattern p.significand p.place = pattern := hp.pattern_eq
    refine ⟨y, ⟨p, hp.scan_eq, hvalue⟩, hnegative, hpattern ▸ hscaled.near, fun q hq hdigits hplace => ?_⟩
    rw [hp.scan_eq] at hq
    cases hq
    exact Finite.eq_of_pattern hnegative ((hscaled.eq_of_exact hdigits hplace).trans hpattern)
  · refine ⟨_, readAs_largest negative hlarge hlt, rfl, ?_, fun q hq hdigits hplace => ?_⟩
    · constructor <;> dsimp only <;> omega
    · rw [hp.scan_eq] at hq
      cases hq
      have hsmall := decimalPattern_lt hdigits (show p.place ≤ 22 by omega)
      have hpattern : decimalPattern p.significand p.place = pattern := hp.pattern_eq
      omega

/-! ### All numbers -/

/-- What may become of a number: it keeps its sign and moves by two places at most, and not at all when it is an
integer or when the digits of its text and the power of ten are exact. -/
structure ComesBackAs (n m : JsonNumber) : Prop where
  readAs : n.ReadAs m
  eq_of_integer : ∀ i, n = .integer i → m = n
  exists_real : ∀ x, n = .real x → ∃ y, m = .real y ∧ y.negative = x.negative ∧ Near y.pattern x.pattern
  eq_of_exact : ∀ p, scan n.chars = .numeral p [] → p.significand ≤ 2 ^ 53 → p.place.natAbs ≤ 22 → m = n
  chars_eq_iff : m.chars = n.chars ↔ m = n

theorem readable_integer {i : Int} (h : Is64Bit (.integer i)) : Readable (.integer i) := by
  obtain ⟨hlow, hhigh⟩ := h
  cases i with
  | ofNat n => exact readable_ofNat (Int.ofNat_le.1 hhigh)
  | negSucc n => exact readable_negSucc (by omega)

theorem comesBackAs_reread {n : JsonNumber} (h : n.Is64Bit) : n.ComesBackAs n.reread := by
  cases n with
  | integer i =>
    have hread : ReadAs (.integer i) (.integer i) := readable_integer h
    rw [hread.reread_eq]
    exact ⟨hread, fun _ _ => rfl, nofun, fun _ _ _ _ => rfl, ⟨fun _ => rfl, fun _ => rfl⟩⟩
  | real x =>
    obtain ⟨y, hread, hnegative, hnear, hexact⟩ := exists_readAs_real x
    rw [hread.reread_eq]
    refine ⟨hread, nofun, ?_, fun p hp hdigits hplace => congrArg real (hexact p hp hdigits hplace), ?_⟩
    · rintro _ ⟨⟩
      exact ⟨y, rfl, hnegative, hnear⟩
    · exact ⟨fun hchars => congrArg real (chars_real_injective hchars), fun heq => congrArg chars heq⟩

/-- Two places are possible: `1.0481635128841745e127` comes back as `1.0481635128841743e127`. -/
example : ReadAs (.real ⟨false, 6507411133669888777, by decide⟩) (.real ⟨false, 6507411133669888775, by decide⟩) := by
  decide +kernel

end JsonNumber

end DataGrid
