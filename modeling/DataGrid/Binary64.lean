/-!
# Binary64 numbers

The numbers of IEEE 754's binary64 format as exact integers. A finite number is a sign and its
pattern, the 63 bits of exponent and fraction read as one natural number; patterns of one sign are
ordered as the numbers are. Its size is `mantissa * 2 ^ shift / 2 ^ 1074`.

Every operation that rounds goes through `roundedPattern`, which rounds an exact fraction to the
nearest pattern, ties to the even one.
-/

namespace DataGrid

namespace Binary64

/-- The leading bit of a mantissa, `2 ^ 52`: patterns from here on have it and do not write it. -/
def leadingBit : Nat := Nat.pow 2 52

/-- The pattern just above the largest finite number. -/
def infinityPattern : Nat := 2047 * leadingBit

/-- The denominator of all finite numbers, `2 ^ 1074`. -/
def denominator : Nat := Nat.pow 2 1074

/-- A finite number. -/
structure Finite where
  negative : Bool
  pattern : Nat
  pattern_lt : pattern < infinityPattern
deriving DecidableEq

/-- `num / den` rounded to a natural number, ties to even. -/
def roundHalfEven (num den : Nat) : Nat :=
  let floor := num / den
  match compare (2 * (num % den)) den with
  | .lt => floor
  | .gt => floor + 1
  | .eq => floor + floor % 2

/-- The pattern nearest to `num / den`, ties to even; `infinityPattern` or more when the fraction is
too large. The shift is chosen so that the rounded mantissa has 53 bits, or fewer at the smallest
shift; a mantissa rounded up to `2 ^ 53` carries into the exponent by itself. -/
def roundedPattern (num den : Nat) : Nat :=
  let scaled := num * denominator
  let shift := (scaled / den).log2 - 52
  shift * leadingBit + roundHalfEven scaled (den * Nat.pow 2 shift)

namespace Finite

def zero : Finite := ⟨false, 0, by decide⟩

/-- The number with this sign nearest to `num / den`, unless it is too large. -/
def ofRatio? (negative : Bool) (num den : Nat) : Option Finite :=
  if h : roundedPattern num den < infinityPattern then
    some ⟨negative, roundedPattern num den, h⟩
  else
    none

def shift (x : Finite) : Nat := x.pattern / leadingBit - 1

def mantissa (x : Finite) : Nat :=
  if x.pattern < leadingBit then x.pattern else leadingBit + x.pattern % leadingBit

/-- The size of `x` as a multiple of `2 ^ (-1074)`. -/
def units (x : Finite) : Nat := x.mantissa * Nat.pow 2 x.shift

/-- The place of `x` among the finite numbers; both zeros have the same. -/
def rank (x : Finite) : Int := if x.negative then -x.pattern else x.pattern

/-- The product of the sizes, with the sign of `x`. -/
def times? (x y : Finite) : Option Finite :=
  ofRatio? x.negative (x.units * y.units) (denominator * denominator)

/-- The quotient of the sizes, with the sign of `x`. -/
def over? (x y : Finite) : Option Finite := ofRatio? x.negative x.units y.units

def ofNat? (n : Nat) : Option Finite := ofRatio? false n 1

end Finite

end Binary64

/-- A binary64 number; all NaNs are one. -/
inductive Binary64 where
  | finite (x : Binary64.Finite)
  | infinite (negative : Bool)
  | nan
deriving DecidableEq

namespace Binary64

/-- The place of a number in the order of the numbers, which has none for NaN. -/
def rank? : Binary64 → Option Int
  | .finite x => some x.rank
  | .infinite negative => some (if negative then -infinityPattern else infinityPattern)
  | .nan => none

/-- Numeric comparison: the zeros are equal, and NaN is incomparable to everything. -/
def compare? (x y : Binary64) : Option Ordering := do
  return compare (← x.rank?) (← y.rank?)

/-- The number with this sign nearest to `num / den`. -/
def ofRatio (negative : Bool) (num den : Nat) : Binary64 :=
  match Finite.ofRatio? negative num den with
  | some x => .finite x
  | none => .infinite negative

end Binary64

end DataGrid
