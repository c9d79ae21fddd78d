import DataGrid.Binary64.Shortest
import DataGrid.Blank

/-!
# Texts of numbers

Two ways to write a number, both with the fewest digits that read back as it: the plain text, which
never has an exponent, and the text in JSON, which has one for very large and very small numbers.
And the reader of a number in a text cell, which rounds to the nearest number.
-/

namespace DataGrid.Binary64

/-- How the digits of a number are laid out. -/
structure Layout where
  /-- Numbers with the decimal point left of this place get an exponent. -/
  firstPlace : Option Int
  /-- Numbers with the decimal point right of this place get an exponent. -/
  lastPlace : Option Int
  /-- Whole numbers end in `.0`. -/
  pointOnWhole : Bool
  tie : Tie

/-- Texts of values: no exponent, whole numbers without a point. -/
def Layout.plain : Layout := ⟨none, none, false, .larger⟩

/-- JSON texts: positional from `0.00001` to below `1e16`, whole numbers with `.0`. -/
def Layout.json : Layout := ⟨some (-4), some 16, true, .even⟩

def zeros (n : Nat) : List Char := List.replicate n '0'

/-- Digits with a decimal point after the first `place` of them. -/
def positional (pointOnWhole : Bool) (digits : List Char) (place : Int) : List Char :=
  if place ≤ 0 then
    '0' :: '.' :: (zeros (-place).toNat ++ digits)
  else if digits.length ≤ place.toNat then
    digits ++ zeros (place.toNat - digits.length) ++ if pointOnWhole then ['.', '0'] else []
  else
    digits.take place.toNat ++ '.' :: digits.drop place.toNat

/-- Digits with a point after the first, and the exponent with its sign. -/
def scientific (digits : List Char) (exponent : Int) : List Char :=
  digits.take 1 ++ (if digits.length ≤ 1 then [] else '.' :: digits.drop 1)
    ++ 'e' :: (if exponent < 0 then '-' else '+') :: Nat.toDigits 10 exponent.natAbs

def Layout.size (layout : Layout) (x : Finite) : List Char :=
  if x.pattern = 0 then
    positional layout.pointOnWhole ['0'] 1
  else
    let decimal := x.shortest layout.tie
    let digits := Nat.toDigits 10 decimal.digits
    let place := digits.length + decimal.exponent
    let significant := (digits.reverse.dropWhile (· = '0')).reverse
    if layout.firstPlace.any (place < ·) || layout.lastPlace.any (· < place) then
      scientific significant (place - 1)
    else
      positional layout.pointOnWhole significant place

def Layout.chars (layout : Layout) (x : Finite) : List Char :=
  (if x.negative then ['-'] else []) ++ layout.size x

/-- The plain text of a number. -/
def chars : Binary64 → List Char
  | .finite x => Layout.plain.chars x
  | .infinite false => "inf".toList
  | .infinite true => "-inf".toList
  | .nan => "NaN".toList

def digitsValue (digits : List Char) : Nat := Nat.ofDigitChars 10 digits 0

/-- The digits of a number, without their sign: those before the point, those after it, and the
power of ten. -/
structure Numeral where
  whole : List Char
  fraction : List Char
  exponent : Int

/-- The number nearest to a numeral. Powers of ten far outside the range are not computed. -/
def Numeral.value (negative : Bool) (n : Numeral) : Binary64 :=
  let digits := n.whole ++ n.fraction
  let exponent := n.exponent - n.fraction.length
  if digitsValue digits = 0 then
    .ofRatio negative 0 1
  else if 310 < (digits.dropWhile (· = '0')).length + exponent then
    .infinite negative
  else if (digits.dropWhile (· = '0')).length + exponent < -330 then
    .ofRatio negative 0 1
  else
    .ofRatio negative (digitsValue digits * Nat.pow 10 exponent.toNat)
      (Nat.pow 10 (-exponent).toNat)

/-- The exponent that ends a numeral: `e` or `E`, a sign or none, and digits to the end. -/
def exponent? : List Char → Option Int
  | [] => some 0
  | c :: rest =>
    if c = 'e' || c = 'E' then
      let (sign, digits) : Int × List Char := match rest with
        | '-' :: digits => (-1, digits)
        | '+' :: digits => (1, digits)
        | digits => (1, digits)
      if digits ≠ [] ∧ digits.all Char.isDigit then some (sign * digitsValue digits) else none
    else
      none

/-- Digits, a point and digits (one side may be empty), and an exponent or none. -/
def numeral? (cs : List Char) : Option Numeral := do
  let whole := cs.takeWhile Char.isDigit
  match cs.dropWhile Char.isDigit with
  | '.' :: rest =>
    let fraction := rest.takeWhile Char.isDigit
    guard (whole ≠ [] ∨ fraction ≠ [])
    return ⟨whole, fraction, ← exponent? (rest.dropWhile Char.isDigit)⟩
  | rest =>
    guard (whole ≠ [])
    return ⟨whole, [], ← exponent? rest⟩

def unsigned? (negative : Bool) (cs : List Char) : Option Binary64 :=
  let word := String.ofList (cs.map Char.toLower)
  if word = "inf" ∨ word = "infinity" then some (.infinite negative)
  else if word = "nan" then some .nan
  else (numeral? cs).map (Numeral.value negative)

/-- Reads a whole text as a number: a sign or none, then a numeral, `inf`, `infinity` or `nan` in
any case. -/
def ofChars? : List Char → Option Binary64
  | '-' :: rest => unsigned? true rest
  | '+' :: rest => unsigned? false rest
  | cs => unsigned? false cs

end DataGrid.Binary64
