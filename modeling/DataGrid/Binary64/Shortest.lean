import DataGrid.Binary64

/-!
# The shortest decimal of a number

Every decimal in the rounding interval of a number reads back as that number. The shortest decimal
is the one on the coarsest decimal grid that meets the interval, and on that grid the one nearest
to the number. Only the number's two neighbours on a grid have to be tried.
-/

namespace DataGrid.Binary64

/-- The decimal `digits * 10 ^ exponent`. -/
structure Decimal where
  digits : Nat
  exponent : Int
deriving DecidableEq, Repr

/-- Which of two equally near decimals is taken. -/
inductive Tie where
  | larger
  | even
deriving DecidableEq, Repr

/-- The decimals that read back as a number, in units of `2 ^ (-1076)`: those between `low` and
`high` around `middle`, the ends included when the mantissa is even. -/
structure Interval where
  low : Nat
  middle : Nat
  high : Nat
  closed : Bool

/-- The lower half is narrower where the numbers below lie twice as dense. -/
def Finite.interval (x : Finite) : Interval where
  low := (4 * x.mantissa - if x.mantissa = leadingBit ∧ 0 < x.shift then 1 else 2)
    * Nat.pow 2 x.shift
  middle := 4 * x.mantissa * Nat.pow 2 x.shift
  high := (4 * x.mantissa + 2) * Nat.pow 2 x.shift
  closed := x.mantissa % 2 = 0

/-- Whether `a / den` lies in the interval `[low / den', high / den']` scaled to one denominator. -/
def Interval.holds (i : Interval) (scale point : Nat) : Bool :=
  if i.closed then i.low * scale ≤ point && point ≤ i.high * scale
  else i.low * scale < point && point < i.high * scale

/-- The multiple of `10 ^ exponent` in the interval that is nearest to its middle, if there is one. -/
def Interval.onGrid (i : Interval) (tie : Tie) (exponent : Int) : Option Nat :=
  let scale := Nat.pow 10 (-exponent).toNat
  let step := Nat.pow 10 exponent.toNat * (4 * denominator)
  let middle := i.middle * scale
  let below := middle / step
  match i.holds scale (below * step), i.holds scale ((below + 1) * step) with
  | false, false => none
  | true, false => some below
  | false, true => some (below + 1)
  | true, true =>
    match compare (2 * (middle % step)) step, tie with
    | .lt, _ => some below
    | .gt, _ => some (below + 1)
    | .eq, .larger => some (below + 1)
    | .eq, .even => some (below + below % 2)

/-- Tries `tries` grids, from the one of `exponent` to finer ones. -/
def Interval.coarsest (i : Interval) (tie : Tie) (exponent : Int) : Nat → Decimal
  | 0 => ⟨0, 0⟩
  | tries + 1 =>
    match i.onGrid tie exponent with
    | some digits => ⟨digits, exponent⟩
    | none => i.coarsest tie (exponent - 1) tries

/-- The shortest decimal of a nonzero number's size. No power of ten above the count of digits
before the point reads back as the number, and on the grid of `10 ^ (-1076)` it lies itself. -/
def Finite.shortest (x : Finite) (tie : Tie) : Decimal :=
  let top := (Nat.toDigits 10 (x.interval.middle / (4 * denominator))).length
  x.interval.coarsest tie top (top + 1077)

end DataGrid.Binary64
