import DataGrid.Proofs.Binary64.Shortest
import DataGrid.Proofs.Json.RoundTrip

/-!
# The decimals of number texts

The text of a binary64 number is a numeral with a fraction or an exponent, and its digits, which 64 bits hold, and
its power of ten are a decimal that the number is nearest to (`exists_denotes`).
-/

namespace DataGrid

open Binary64

/-! ### Decimals -/

namespace Binary64

theorem decimalPattern_mul_pow (digits k : Nat) (exponent : Int) :
    decimalPattern (digits * 10 ^ k) exponent = decimalPattern digits (exponent + k) := by
  have hpow (n : Nat) : 0 < 10 ^ n := Nat.pow_pos (by decide)
  have hexponents : k + exponent.toNat + (-(exponent + k)).toNat = (exponent + k).toNat + (-exponent).toNat := by omega
  refine roundedPattern_congr (hpow _) (hpow _) ?_
  calc digits * 10 ^ k * 10 ^ exponent.toNat * 10 ^ (-(exponent + k)).toNat
      = digits * 10 ^ (k + exponent.toNat + (-(exponent + k)).toNat) := by ring
    _ = digits * 10 ^ (exponent + k).toNat * 10 ^ (-exponent).toNat := by
      rw [hexponents]
      ring

theorem digitsValue_append (a b : List Char) :
    digitsValue (a ++ b) = digitsValue a * 10 ^ b.length + digitsValue b := by
  rw [digitsValue, Nat.ofDigitChars_append, Nat.ofDigitChars_eq_ofDigitChars_zero, Nat.mul_comm]
  rfl

theorem digitsValue_zeros (n : Nat) : digitsValue (zeros n) = 0 := Nat.ofDigitChars_replicate_zero

theorem digitsValue_zeros_append (n : Nat) (digits : List Char) :
    digitsValue (zeros n ++ digits) = digitsValue digits := by
  rw [digitsValue_append, digitsValue_zeros, Nat.zero_mul, Nat.zero_add]

/-- Digits that do not start with a zero, or a single one that may be zero. -/
structure Plain (digits : List Char) : Prop where
  isDigit : ∀ c ∈ digits, c.isDigit = true
  ne_nil : digits ≠ []
  leading : ∀ rest, digits = '0' :: rest → rest = []

theorem plain_toDigits (n : Nat) : Plain (Nat.toDigits 10 n) where
  isDigit _ hc := Nat.isDigit_of_mem_toDigits (by decide) (by decide) hc
  ne_nil := Nat.toDigits_ne_nil
  leading := JsonNumber.eq_nil_of_toDigits n

/-- The digits of a number without the zeros at their end. -/
def significant (n : Nat) : List Char := ((Nat.toDigits 10 n).reverse.dropWhile (· = '0')).reverse

theorem exists_zeros (n : Nat) : ∃ k, Nat.toDigits 10 n = significant n ++ zeros k := by
  let ending := (Nat.toDigits 10 n).reverse.takeWhile (· = '0')
  have hzeros : ending.reverse = zeros ending.length := by
    refine List.eq_replicate_iff.2 ⟨List.length_reverse, fun c hc => ?_⟩
    exact of_decide_eq_true (List.all_eq_true.1 List.all_takeWhile c (List.mem_reverse.1 hc))
  refine ⟨ending.length, ?_⟩
  rw [← hzeros, significant, ← List.reverse_append, List.takeWhile_append_dropWhile, List.reverse_reverse]

theorem isDigit_zeros (n : Nat) : ∀ c ∈ zeros n, c.isDigit = true := fun _ hc => (List.mem_replicate.1 hc).2 ▸ rfl

/-- Digits that do not start with a zero. -/
structure Leading (digits : List Char) : Prop where
  isDigit : ∀ c ∈ digits, c.isDigit = true
  ne_nil : digits ≠ []
  leading : ∀ rest, digits ≠ '0' :: rest

theorem digitsValue_toDigits (n : Nat) : digitsValue (Nat.toDigits 10 n) = n := Nat.ofDigitChars_ten_toDigits

theorem exists_significant (n : Nat) : ∃ k, n = digitsValue (significant n) * 10 ^ k ∧
    (Nat.toDigits 10 n).length = (significant n).length + k := by
  obtain ⟨k, hk⟩ := exists_zeros n
  have hvalue := digitsValue_append (significant n) (zeros k)
  have hlength := congrArg List.length hk
  rw [← hk, digitsValue_toDigits, digitsValue_zeros, Nat.add_zero, zeros, List.length_replicate] at hvalue
  rw [List.length_append, zeros, List.length_replicate] at hlength
  exact ⟨k, hvalue, hlength⟩

theorem leading_significant {n : Nat} (hn : n ≠ 0) : Leading (significant n) := by
  obtain ⟨k, hk⟩ := exists_zeros n
  have hdigits := plain_toDigits n
  rw [hk] at hdigits
  refine ⟨fun c hc => hdigits.isDigit c (List.mem_append_left _ hc), fun hnil => hn ?_, fun rest hrest => hn ?_⟩
  · rw [← digitsValue_toDigits n, hk, hnil, List.nil_append, digitsValue_zeros]
  · have hzero := hdigits.leading (rest ++ zeros k) (by rw [hrest, List.cons_append])
    rw [← digitsValue_toDigits n, hk, hrest, List.cons_append, hzero]
    rfl

namespace Leading

variable {digits : List Char}

theorem plain_append (h : Leading digits) {zeros : List Char} (hzeros : ∀ c ∈ zeros, c.isDigit = true) :
    Plain (digits ++ zeros) := by
  obtain ⟨d, ds, rfl⟩ := List.exists_cons_of_ne_nil h.ne_nil
  refine ⟨List.forall_mem_append.2 ⟨h.isDigit, hzeros⟩, List.cons_ne_nil _ _, fun rest hrest => ?_⟩
  exact absurd (congrArg (· :: ds) (List.cons.inj hrest).1) (h.leading ds)

theorem plain_take (h : Leading digits) {n : Nat} (hn : n ≠ 0) : Plain (digits.take n) := by
  obtain ⟨d, ds, rfl⟩ := List.exists_cons_of_ne_nil h.ne_nil
  obtain ⟨k, rfl⟩ := Nat.exists_eq_succ_of_ne_zero hn
  refine ⟨fun c hc => h.isDigit c (List.mem_of_mem_take hc), List.cons_ne_nil _ _, fun rest hrest => ?_⟩
  exact absurd (congrArg (· :: ds) (List.cons.inj hrest).1) (h.leading ds)

end Leading

end Binary64

namespace JsonNumber

/-! ### Reading numerals -/

namespace Parts

/-- The digits of a numeral as an integer, without the point. -/
def significand (p : Parts) : Nat := digitsValue (p.whole ++ p.fraction.getD [])

/-- The power of ten that the integer is multiplied by. -/
def place (p : Parts) : Int := p.exponent.getD 0 - (p.fraction.getD []).length

/-- The pattern nearest to a numeral. -/
def pattern (p : Parts) : Nat := decimalPattern p.significand p.place

/-- All digits of a numeral are taken when 64 bits hold them. -/
theorem value?_eq_scale? {p : Parts} (hform : p.fraction.isNone = false ∨ p.exponent.isNone = false)
    (hfits : p.significand ≤ capacity) :
    p.value? = (scale? p.negative p.significand (clampExponent p.place)).map .real := by
  have hvalue : Nat.ofDigitChars 10 (p.fraction.getD []) (digitsValue p.whole) = p.significand :=
    (Nat.ofDigitChars_append 0).symm
  have hwhole : digitsValue p.whole ≤ p.significand := hvalue ▸ le_ofDigitChars _ _
  have htake := collect_eq p.whole 0 (hwhole.trans hfits)
  have htake' := collect_eq (p.fraction.getD []) (digitsValue p.whole) (hvalue ▸ hfits)
  have hnone : (p.fraction.isNone && p.exponent.isNone) = false := by
    rw [Bool.and_eq_false_iff]
    exact hform
  rw [value?, htake]
  dsimp only
  rw [hnone, Bool.false_and, Bool.false_and, if_neg Bool.false_ne_true]
  rw [digitsValue] at htake' hvalue
  rw [htake', hvalue, place]
  simp only [Int.natCast_zero, Int.zero_sub]
  rw [Int.add_comm, ← Int.sub_eq_add_neg]

end Parts

section
variable {negative : Bool} {whole digits rest : List Char} {fraction : Option (List Char)}

theorem scan_signed (negative : Bool) (hwhole : Plain whole) (rest : List Char) :
    scan ((if negative then ['-'] else []) ++ (whole ++ rest)) = scanWhole negative (whole ++ rest) := by
  cases negative with
  | true => rfl
  | false =>
    obtain ⟨c, cs, rfl⟩ := List.exists_cons_of_ne_nil hwhole.ne_nil
    have hc := hwhole.isDigit c List.mem_cons_self
    show scan (c :: (cs ++ rest)) = scanWhole false (c :: (cs ++ rest))
    unfold scan
    split
    · next heq =>
      cases heq
      cases hc
    · rfl

theorem scanWhole_append (hwhole : Plain whole) (hrest : ∀ c ∈ rest.head?, c.isDigit = false) :
    scanWhole negative (whole ++ rest) = scanFraction negative whole rest := by
  obtain ⟨htake, hdrop⟩ := takeWhile_digits_append hwhole.isDigit hrest
  unfold scanWhole
  dsimp only
  rw [htake, hdrop]
  split
  · exact absurd rfl hwhole.ne_nil
  · next c cs => exact absurd (hwhole.leading (c :: cs) rfl) (List.cons_ne_nil c cs)
  · rfl

theorem scanFraction_point (hdigits : ∀ c ∈ digits, c.isDigit = true) (hne : digits ≠ []) :
    scanFraction negative whole ('.' :: digits) = .numeral ⟨negative, whole, some digits, none⟩ [] := by
  have hend : ∀ c ∈ ([] : List Char).head?, c.isDigit = false := nofun
  have htake := takeWhile_digits_append hdigits hend
  rw [List.append_nil] at htake
  rw [scanFraction, htake.1, htake.2, if_neg hne]

theorem scanFraction_point_exponent (hdigits : ∀ c ∈ digits, c.isDigit = true) (hne : digits ≠ []) :
    scanFraction negative whole ('.' :: (digits ++ 'e' :: rest)) = scanExponent negative whole (some digits) rest := by
  have hletter : ∀ c ∈ ('e' :: rest).head?, c.isDigit = false := by
    rintro _ ⟨⟩
    rfl
  have htake := takeWhile_digits_append hdigits hletter
  rw [scanFraction, htake.1, htake.2, if_neg hne]
  rfl

theorem scanExponent_written (exponent : Int) : scanExponent negative whole fraction
    ((if exponent < 0 then '-' else '+') :: Nat.toDigits 10 exponent.natAbs) =
      .numeral ⟨negative, whole, fraction, some exponent⟩ [] := by
  have hend : ∀ c ∈ ([] : List Char).head?, c.isDigit = false := nofun
  have htake := takeWhile_digits_append (plain_toDigits exponent.natAbs).isDigit hend
  rw [List.append_nil] at htake
  rw [scanExponent_eq]
  split
  · next hneg =>
    show scanDigits negative whole fraction (-1) (Nat.toDigits 10 exponent.natAbs) = _
    rw [scanDigits, htake.1, htake.2, if_neg Nat.toDigits_ne_nil, digitsValue_toDigits,
      show -1 * (exponent.natAbs : Int) = exponent by omega]
  · next hneg =>
    show scanDigits negative whole fraction 1 (Nat.toDigits 10 exponent.natAbs) = _
    rw [scanDigits, htake.1, htake.2, if_neg Nat.toDigits_ne_nil, digitsValue_toDigits,
      show 1 * (exponent.natAbs : Int) = exponent by omega]

section
variable {exponent : Int}

theorem scan_fraction (negative : Bool) (hwhole : Plain whole) (hdigits : ∀ c ∈ digits, c.isDigit = true)
    (hne : digits ≠ []) : scan ((if negative then ['-'] else []) ++ (whole ++ '.' :: digits)) =
      .numeral ⟨negative, whole, some digits, none⟩ [] := by
  have hpoint : ∀ c ∈ ('.' :: digits).head?, c.isDigit = false := by
    rintro _ ⟨⟩
    rfl
  rw [scan_signed negative hwhole, scanWhole_append hwhole hpoint, scanFraction_point hdigits hne]

theorem scan_exponent (negative : Bool) (hwhole : Plain whole) :
    scan ((if negative then ['-'] else []) ++
      (whole ++ 'e' :: (if exponent < 0 then '-' else '+') :: Nat.toDigits 10 exponent.natAbs)) =
        .numeral ⟨negative, whole, none, some exponent⟩ [] := by
  have hletter (rest : List Char) : ∀ c ∈ ('e' :: rest).head?, c.isDigit = false := by
    rintro _ ⟨⟩
    rfl
  rw [scan_signed negative hwhole, scanWhole_append hwhole (hletter _), scanFraction, scanExponent_written]

theorem scan_fraction_exponent (negative : Bool) (hwhole : Plain whole) (hdigits : ∀ c ∈ digits, c.isDigit = true)
    (hne : digits ≠ []) :
    scan ((if negative then ['-'] else []) ++ (whole ++
      '.' :: (digits ++ 'e' :: (if exponent < 0 then '-' else '+') :: Nat.toDigits 10 exponent.natAbs))) =
        .numeral ⟨negative, whole, some digits, some exponent⟩ [] := by
  have hpoint (rest : List Char) : ∀ c ∈ ('.' :: rest).head?, c.isDigit = false := by
    rintro _ ⟨⟩
    rfl
  rw [scan_signed negative hwhole, scanWhole_append hwhole (hpoint _), scanFraction_point_exponent hdigits hne,
    scanExponent_written]

end

end

/-! ### The numerals that are written -/

/-- The text is a numeral with a fraction or an exponent for the decimal, whose digits 64 bits hold. -/
structure Writes (negative : Bool) (digits : Nat) (place : Int) (cs : List Char) (p : Parts) : Prop where
  scan_eq : scan ((if negative then ['-'] else []) ++ cs) = .numeral p []
  negative_eq : p.negative = negative
  form : p.fraction.isNone = false ∨ p.exponent.isNone = false
  pattern_eq : p.pattern = decimalPattern digits place
  significand_le : p.significand ≤ max digits (10 ^ 17)
  le_place : min place (-1) ≤ p.place

section
variable {negative : Bool} {digits : List Char} {place : Int} {cs : List Char} {p : Parts}

theorem Writes.of_eq (hscan : scan ((if negative then ['-'] else []) ++ cs) = .numeral p [])
    (hnegative : p.negative = negative) (hform : p.fraction.isNone = false ∨ p.exponent.isNone = false)
    (hdigits : p.significand = digitsValue digits) (hplace : p.place = place - digits.length) :
    Writes negative (digitsValue digits) (place - digits.length) cs p where
  scan_eq := hscan
  negative_eq := hnegative
  form := hform
  pattern_eq := by rw [Parts.pattern, hdigits, hplace]
  significand_le := hdigits ▸ Nat.le_max_left ..
  le_place := hplace ▸ Int.min_le_left ..

theorem writes_leading_zeros (negative : Bool) (h : Leading digits) (hplace : place ≤ 0) :
    Writes negative (digitsValue digits) (place - digits.length) ('0' :: '.' :: (zeros (-place).toNat ++ digits))
      ⟨negative, ['0'], some (zeros (-place).toNat ++ digits), none⟩ := by
  have hfraction : ∀ c ∈ zeros (-place).toNat ++ digits, c.isDigit = true :=
    List.forall_mem_append.2 ⟨isDigit_zeros _, h.isDigit⟩
  have hne : zeros (-place).toNat ++ digits ≠ [] := fun hnil => h.ne_nil (List.append_eq_nil_iff.1 hnil).2
  refine .of_eq (scan_fraction negative (plain_toDigits 0) hfraction hne) rfl (.inl rfl) ?_ ?_
  · show digitsValue (['0'] ++ (zeros (-place).toNat ++ digits)) = _
    rw [digitsValue_append, digitsValue_zeros_append, show digitsValue ['0'] = 0 from rfl, Nat.zero_mul, Nat.zero_add]
  · show 0 - ((zeros (-place).toNat ++ digits).length : Int) = _
    rw [List.length_append, zeros, List.length_replicate]
    omega

/-- The zeros behind the digits of a whole number are digits as well, and so is the one behind the point. -/
theorem writes_trailing_zeros (negative : Bool) (h : Leading digits) {k : Nat} (hplace : place = digits.length + k)
    (hle : place ≤ 16) : Writes negative (digitsValue digits) (place - digits.length) (digits ++ zeros k ++ ['.', '0'])
      ⟨negative, digits ++ zeros k, some ['0'], none⟩ := by
  have hlt : digitsValue digits < (0 + 1) * 10 ^ digits.length := ofDigitChars_lt 0 h.isDigit
  have hsignificand : digitsValue (digits ++ zeros k ++ ['0']) = digitsValue digits * 10 ^ (k + 1) := by
    have hzeros : zeros k ++ ['0'] = zeros (k + 1) := List.replicate_succ'.symm
    rw [List.append_assoc, hzeros, digitsValue_append, digitsValue_zeros, Nat.add_zero, zeros, List.length_replicate]
  have hscan := scan_fraction negative (h.plain_append (isDigit_zeros k)) (isDigit_zeros 1) (by decide)
  refine ⟨hscan, rfl, .inl rfl, ?_, ?_, Int.min_le_right ..⟩
  · show decimalPattern (digitsValue (digits ++ zeros k ++ ['0'])) (-1) = _
    rw [hsignificand, decimalPattern_mul_pow]
    congr 1
    omega
  · show digitsValue (digits ++ zeros k ++ ['0']) ≤ _
    rw [hsignificand]
    refine Nat.le_trans ?_ (Nat.le_max_right ..)
    calc digitsValue digits * 10 ^ (k + 1) ≤ 10 ^ digits.length * 10 ^ (k + 1) := Nat.mul_le_mul_right _ (by omega)
      _ = 10 ^ (digits.length + (k + 1)) := (Nat.pow_add ..).symm
      _ ≤ 10 ^ 17 := Nat.pow_le_pow_right (by decide) (by omega)

theorem writes_point_inside (negative : Bool) (h : Leading digits) {k : Nat} (hpos : 0 < k) (hlt : k < digits.length) :
    Writes negative (digitsValue digits) (k - digits.length) (digits.take k ++ '.' :: digits.drop k)
      ⟨negative, digits.take k, some (digits.drop k), none⟩ := by
  have hdrop : digits.drop k ≠ [] := by
    rw [Ne, List.drop_eq_nil_iff]
    omega
  have hdigits : ∀ c ∈ digits.drop k, c.isDigit = true := fun c hc => h.isDigit c (List.mem_of_mem_drop hc)
  refine .of_eq (scan_fraction negative (h.plain_take hpos.ne') hdigits hdrop) rfl (.inl rfl) ?_ ?_
  · exact congrArg digitsValue (List.take_append_drop k digits)
  · show 0 - ((digits.drop k).length : Int) = _
    rw [List.length_drop]
    omega

theorem exists_positional (negative : Bool) (h : Leading digits) (hplace : place ≤ 16) :
    ∃ p, Writes negative (digitsValue digits) (place - digits.length) (positional true digits place) p := by
  unfold positional
  split
  · next hsmall => exact ⟨_, writes_leading_zeros negative h hsmall⟩
  · next hpositive =>
    obtain ⟨k, rfl⟩ := Int.eq_ofNat_of_zero_le (show 0 ≤ place by omega)
    rw [Int.toNat_natCast]
    split
    · exact ⟨_, writes_trailing_zeros negative h (by omega) hplace⟩
    · exact ⟨_, writes_point_inside negative h (by omega) (by omega)⟩

theorem writes_digit_exponent (negative : Bool) (h : Leading digits) (hone : digits.length ≤ 1) (exponent : Int) :
    Writes negative (digitsValue digits) (exponent + 1 - digits.length)
      (digits ++ 'e' :: (if exponent < 0 then '-' else '+') :: Nat.toDigits 10 exponent.natAbs)
      ⟨negative, digits, none, some exponent⟩ := by
  have hpos := List.length_pos_iff.2 h.ne_nil
  have hplain : Plain digits := List.append_nil digits ▸ h.plain_append (List.forall_mem_nil _)
  refine .of_eq (scan_exponent negative hplain) rfl (.inr rfl) ?_ ?_
  · exact congrArg digitsValue (List.append_nil digits)
  · show exponent - ((0 : Nat) : Int) = _
    omega

theorem writes_point_exponent (negative : Bool) (h : Leading digits) (hmore : 1 < digits.length) (exponent : Int) :
    Writes negative (digitsValue digits) (exponent + 1 - digits.length) (digits.take 1 ++
      '.' :: (digits.drop 1 ++ 'e' :: (if exponent < 0 then '-' else '+') :: Nat.toDigits 10 exponent.natAbs))
      ⟨negative, digits.take 1, some (digits.drop 1), some exponent⟩ := by
  have hdrop : digits.drop 1 ≠ [] := by
    rw [Ne, List.drop_eq_nil_iff]
    omega
  refine .of_eq (scan_fraction_exponent negative (h.plain_take (by decide))
    (fun c hc => h.isDigit c (List.mem_of_mem_drop hc)) hdrop) rfl (.inl rfl) ?_ ?_
  · exact congrArg digitsValue (List.take_append_drop 1 digits)
  · show exponent - ((digits.drop 1).length : Int) = _
    rw [List.length_drop]
    omega

theorem exists_scientific (negative : Bool) (h : Leading digits) (exponent : Int) :
    ∃ p, Writes negative (digitsValue digits) (exponent + 1 - digits.length) (scientific digits exponent) p := by
  unfold scientific
  split
  · next hone =>
    rw [List.append_nil, List.take_of_length_le hone]
    exact ⟨_, writes_digit_exponent negative h hone exponent⟩
  · next hmore =>
    rw [List.append_assoc, List.cons_append]
    exact ⟨_, writes_point_exponent negative h (Nat.lt_of_not_le hmore) exponent⟩

end

/-- The text of a number is a numeral for a decimal that is nearest to the number. -/
structure Denotes (p : Parts) (x : Finite) : Prop where
  scan_eq : scan (chars (.real x)) = .numeral p []
  negative_eq : p.negative = x.negative
  form : p.fraction.isNone = false ∨ p.exponent.isNone = false
  pattern_eq : p.pattern = x.pattern
  fits : p.significand ≤ capacity
  le_place : -324 ≤ p.place

theorem decimalPattern_zero (exponent : Int) : decimalPattern 0 exponent = 0 :=
  Nat.le_zero.1 (roundedPattern_le (Nat.pow_pos (by decide)) (by rw [Nat.zero_mul, Nat.zero_mul]; exact Nat.zero_le _))

theorem chars_real (x : Finite) :
    chars (.real x) = (if x.negative then ['-'] else []) ++ Layout.json.size x := rfl

theorem exists_writes {x : Finite} (hx : x.pattern ≠ 0) : ∃ digits place p,
    Writes x.negative digits place (Layout.json.size x) p ∧ decimalPattern digits place = x.pattern ∧
      digits < 40 * leadingBit ∧ -324 ≤ place := by
  obtain ⟨digits, exponent, hshortest, hpattern, hlt, hexponent⟩ := x.exists_shortest .even hx
  have hne : digits ≠ 0 := by
    rintro rfl
    exact hx (hpattern.symm.trans (decimalPattern_zero exponent))
  obtain ⟨k, hvalue, hlength⟩ := exists_significant digits
  have hleading := leading_significant hne
  have hplace : ((Nat.toDigits 10 digits).length + exponent : Int) - (significant digits).length = exponent + k := by
    omega
  have hle : digitsValue (significant digits) ≤ digits :=
    (Nat.le_mul_of_pos_right _ (Nat.pow_pos (by decide))).trans hvalue.ge
  have hwrites : ∀ cs, Layout.json.size x = cs →
      ∃ p, Writes x.negative (digitsValue (significant digits)) (exponent + k) cs p := by
    intro cs hcs
    rw [Layout.size, if_neg hx] at hcs
    simp only [Layout.json, hshortest, Option.any_some, Bool.or_eq_true, decide_eq_true_eq] at hcs
    rw [← hplace]
    split at hcs
    · have hscientific := exists_scientific x.negative hleading ((Nat.toDigits 10 digits).length + exponent - 1)
      rw [Int.sub_add_cancel] at hscientific
      exact hcs ▸ hscientific
    · next hpositional =>
      have hlast : ((Nat.toDigits 10 digits).length + exponent : Int) ≤ 16 := by omega
      exact hcs ▸ exists_positional x.negative hleading hlast
  obtain ⟨p, hp⟩ := hwrites _ rfl
  refine ⟨_, _, p, hp, ?_, hle.trans_lt hlt, by omega⟩
  rw [← decimalPattern_mul_pow, ← hvalue, hpattern]

theorem exists_denotes (x : Finite) : ∃ p, Denotes p x := by
  by_cases hx : x.pattern = 0
  · refine ⟨⟨x.negative, ['0'], some ['0'], none⟩, ?_, rfl, .inl rfl, ?_, Nat.zero_le _, ?_⟩
    · rw [chars_real, Layout.size, if_pos hx]
      exact scan_fraction x.negative (plain_toDigits 0) (isDigit_zeros 1) (by decide)
    · have hzero : (⟨x.negative, ['0'], some ['0'], none⟩ : Parts).significand = 0 := rfl
      rw [Parts.pattern, hzero, decimalPattern_zero, hx]
    · show (-324 : Int) ≤ -1
      decide
  · obtain ⟨digits, place, p, hwrites, hpattern, hlt, hplace⟩ := exists_writes hx
    have hcapacity : max (40 * leadingBit) (10 ^ 17) ≤ capacity := by decide
    have hle := hwrites.significand_le
    have hle_place := hwrites.le_place
    exact ⟨p, hwrites.scan_eq, hwrites.negative_eq, hwrites.form, hwrites.pattern_eq.trans hpattern, by omega, by omega⟩

end JsonNumber

end DataGrid
