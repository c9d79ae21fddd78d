import DataGrid.Binary64.Text
import DataGrid.Json
import DataGrid.Json.Fault

/-!
# Numbers in JSON texts

A numeral is an integer when it has no fraction and no exponent and its value has 64 bits; `-0` and
all others are binary64 numbers. Those are computed the fast way and not always rounded to the
nearest: as many digits as 64 bits hold are taken as an integer, converted, and multiplied or
divided by a power of ten.
-/

namespace DataGrid

open Binary64 Json

namespace JsonNumber

/-- The largest integer that the digits of a numeral are collected in. -/
def capacity : Nat := 18446744073709551615

/-- Takes digits while they fit into 64 bits, and counts the digits taken and those left. -/
def collect (start : Nat) : List Char → Nat × Nat × Nat
  | [] => (start, 0, 0)
  | c :: rest =>
    let next := 10 * start + (c.toNat - 48)
    if next ≤ capacity then
      let (value, taken, left) := collect next rest
      (value, taken + 1, left)
    else
      (start, 0, rest.length + 1)

/-- The power of ten, for an exponent that has one in binary64. -/
def powerOfTen (exponent : Nat) : Finite := (Finite.ofNat? (Nat.pow 10 exponent)).getD .zero

/-- Divides by a power of ten, by `10 ^ 308` at a time. -/
def scaleDown (x : Finite) (exponent : Nat) : Finite :=
  if exponent ≤ 308 then
    (x.over? (powerOfTen exponent)).getD .zero
  else if x.pattern = 0 then
    x
  else
    scaleDown ((x.over? (powerOfTen 308)).getD .zero) (exponent - 308)
termination_by exponent

/-- Multiplies by a power of ten, unless the product is too large. -/
def scaleUp? (x : Finite) (exponent : Nat) : Option Finite :=
  if exponent ≤ 308 then x.times? (powerOfTen exponent)
  else if x.pattern = 0 then some x
  else none

def scale? (negative : Bool) (significand : Nat) (exponent : Int) : Option Finite := do
  let x ← Finite.ofNat? significand
  let size ← if 0 ≤ exponent then scaleUp? x exponent.toNat
    else some (scaleDown x (-exponent).toNat)
  return { size with negative }

/-- An exponent outside 32 bits makes any number zero or too large. -/
def clampExponent (exponent : Int) : Int :=
  if exponent < -2147483648 then -2147483648
  else if 2147483647 < exponent then 2147483647
  else exponent

/-- The parts of a numeral; the fraction and the exponent are `none` when not written. -/
structure Parts where
  negative : Bool
  whole : List Char
  fraction : Option (List Char)
  exponent : Option Int

/-- The number of a numeral, unless it is beyond every finite number. -/
def Parts.value? (p : Parts) : Option JsonNumber :=
  let (significand, _, dropped) := collect 0 p.whole
  if p.fraction.isNone && p.exponent.isNone && dropped = 0
      && (!p.negative || (0 < significand && significand ≤ 9223372036854775808)) then
    some (.integer (if p.negative then -significand else significand))
  else
    let (significand, taken, _) := collect significand (p.fraction.getD [])
    let exponent := dropped - taken + p.exponent.getD 0
    (scale? p.negative significand (clampExponent exponent)).map .real

/-- What stands where a numeral should. -/
inductive Scan where
  | numeral (parts : Parts) (rest : List Char)
  | cut (cut : Cut)

/-- The text breaks off where a digit should stand. -/
def missingDigit : List Char → Cut
  | [] => ⟨.ended, .malformed⟩
  | _ => .malformed

/-- Reads the exponent, after the letter. -/
def scanExponent (negative : Bool) (whole : List Char) (fraction : Option (List Char))
    (cs : List Char) : Scan :=
  let (sign, cs) : Int × List Char := match cs with
    | '-' :: rest => (-1, rest)
    | '+' :: rest => (1, rest)
    | rest => (1, rest)
  let digits := cs.takeWhile Char.isDigit
  if digits = [] then
    .cut (missingDigit cs)
  else
    .numeral ⟨negative, whole, fraction, some (sign * digitsValue digits)⟩
      (cs.dropWhile Char.isDigit)

/-- Reads what may follow the digits before the point. -/
def scanFraction (negative : Bool) (whole : List Char) : List Char → Scan
  | '.' :: rest =>
    let digits := rest.takeWhile Char.isDigit
    if digits = [] then
      .cut (missingDigit rest)
    else
      match rest.dropWhile Char.isDigit with
      | 'e' :: rest => scanExponent negative whole (some digits) rest
      | 'E' :: rest => scanExponent negative whole (some digits) rest
      | rest => .numeral ⟨negative, whole, some digits, none⟩ rest
  | 'e' :: rest => scanExponent negative whole none rest
  | 'E' :: rest => scanExponent negative whole none rest
  | rest => .numeral ⟨negative, whole, none, none⟩ rest

/-- Reads the digits before the point; none may follow a leading zero. -/
def scanWhole (negative : Bool) (cs : List Char) : Scan :=
  let digits := cs.takeWhile Char.isDigit
  let rest := cs.dropWhile Char.isDigit
  match digits with
  | [] => .cut (missingDigit cs)
  | '0' :: _ :: _ => .cut .malformed
  | digits => scanFraction negative digits rest

/-- Reads a numeral at the start of the text. -/
def scan : List Char → Scan
  | '-' :: rest => scanWhole true rest
  | cs => scanWhole false cs

/-- The text of a number. -/
def chars : JsonNumber → List Char
  | .integer (.ofNat n) => Nat.toDigits 10 n
  | .integer (.negSucc n) => '-' :: Nat.toDigits 10 (n + 1)
  | .real x => Layout.json.chars x

end JsonNumber

end DataGrid
