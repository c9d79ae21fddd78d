import DataGrid.Blank
import DataGrid.DateTime

/-!
# Patterns for dates and times

A pattern is a list of items, which are read or written one after the other. A loose number may
have blanks before it and fewer digits than its width, and a loose year may have a sign and then any
count of digits; a strict number has all its digits and no sign. Each number is checked against its
own range as soon as it is read, the calendar only at the end.
-/

namespace DataGrid.DateTime

/-- Why a text is no date and time. -/
inductive Fault where
  | outOfRange
  | invalid
  | tooShort
  | tooLong
deriving DecidableEq, Repr

def Fault.message : Fault → String
  | .outOfRange => "input is out of range"
  | .invalid => "input contains invalid characters"
  | .tooShort => "premature end of input"
  | .tooLong => "trailing input"

inductive Field where
  | year
  | month
  | day
  | hour
  | minute
  | second
deriving DecidableEq, Repr

/-- One item of a pattern. -/
inductive Item where
  | loose (field : Field)
  | strict (field : Field)
  /-- One of these characters; the first one is written. -/
  | mark (allowed : List Char)
  /-- Any count of blanks; a space is written. -/
  | blanks
  /-- Nothing, or a point and the digits of a part of a second, of which nine count. -/
  | fraction
  /-- The distance from UTC: `Z`, or a sign, hours, a colon and minutes. -/
  | offset
deriving DecidableEq, Repr

/-- The numbers that a pattern reads; what it does not read keeps its default. -/
structure Fields where
  year : Int := 0
  month : Nat := 1
  day : Nat := 1
  hour : Nat := 0
  minute : Nat := 0
  /-- From 0 to 60, which is the leap second. -/
  second : Nat := 0
  nanos : Nat := 0
  /-- The distance from UTC in minutes, positive in the east. -/
  offset : Int := 0
deriving DecidableEq, Repr

namespace Field

/-- The most digits of a number without a sign. -/
def width : Field → Nat
  | year => 4
  | _ => 2

/-- The least and the greatest number that may stand in a field. -/
def range : Field → Int × Int
  | year => (-2147483648, 2147483647)
  | month => (1, 12)
  | day => (1, 31)
  | hour => (0, 23)
  | minute => (0, 59)
  | second => (0, 60)

def get (fields : Fields) : Field → Int
  | year => fields.year
  | month => fields.month
  | day => fields.day
  | hour => fields.hour
  | minute => fields.minute
  | second => fields.second

def set (fields : Fields) (value : Int) : Field → Fields
  | year => { fields with year := value }
  | month => { fields with month := value.toNat }
  | day => { fields with day := value.toNat }
  | hour => { fields with hour := value.toNat }
  | minute => { fields with minute := value.toNat }
  | second => { fields with second := value.toNat }

/-- Stores a number that is in range. -/
def store (field : Field) (value : Int) (fields : Fields) : Except Fault Fields :=
  if field.range.1 ≤ value ∧ value ≤ field.range.2 then .ok (field.set fields value)
  else .error .outOfRange

end Field

/-- The number that digits spell. -/
def digitsNumber (digits : List Char) : Nat := Nat.ofDigitChars 10 digits 0

/-- Reads digits, at least `least` and at most `most` of them; the number has 63 bits at most. -/
def readDigits (least most : Nat) (cs : List Char) : Except Fault (List Char × List Char) :=
  let digits := (cs.take most).takeWhile Char.isDigit
  if digits.length < least then
    .error (if cs.length < least then .tooShort else .invalid)
  else if 9223372036854775808 ≤ digitsNumber digits then
    .error .outOfRange
  else
    .ok (digits, cs.drop digits.length)

/-- Reads a number with a sign, if the field may have one, or without. -/
def readLoose (field : Field) (cs : List Char) : Except Fault (Int × List Char) := do
  match field, dropBlanks cs with
  | .year, '-' :: rest =>
    let (digits, rest) ← readDigits 1 rest.length rest
    return (-digitsNumber digits, rest)
  | .year, '+' :: rest =>
    let (digits, rest) ← readDigits 1 rest.length rest
    return (digitsNumber digits, rest)
  | field, rest =>
    let (digits, rest) ← readDigits 1 field.width rest
    return (digitsNumber digits, rest)

def readMark (allowed : List Char) : List Char → Except Fault (List Char)
  | [] => .error .tooShort
  | c :: rest => if c ∈ allowed then .ok rest else .error .invalid

/-- Reads the digits after a point as nanoseconds, and drops those after the ninth. -/
def readNanos (cs : List Char) : Except Fault (Nat × List Char) := do
  let (digits, rest) ← readDigits 1 9 cs
  return (digitsNumber digits * Nat.pow 10 (9 - digits.length), rest.dropWhile Char.isDigit)

/-- Reads hours and minutes of a distance from UTC that is less than a day. -/
def readOffset (sign : Int) (cs : List Char) : Except Fault (Int × List Char) := do
  let (hours, rest) ← readDigits 2 2 cs
  let rest ← readMark [':'] rest
  let (minutes, rest) ← readDigits 2 2 rest
  if digitsNumber minutes < 60 ∧ digitsNumber hours < 24 then
    return (sign * (60 * digitsNumber hours + digitsNumber minutes), rest)
  else
    .error .outOfRange

namespace Item

/-- Reads one item and says what follows it. -/
def read (fields : Fields) (cs : List Char) : Item → Except Fault (Fields × List Char)
  | loose field => do
    let (value, rest) ← readLoose field cs
    return (← field.store value fields, rest)
  | strict field => do
    let (digits, rest) ← readDigits field.width field.width cs
    return (← field.store (digitsNumber digits) fields, rest)
  | mark allowed => do
    return (fields, ← readMark allowed cs)
  | blanks => .ok (fields, dropBlanks cs)
  | fraction =>
    match cs with
    | '.' :: rest => do
      let (nanos, rest) ← readNanos rest
      return ({ fields with nanos }, rest)
    | cs => .ok (fields, cs)
  | offset => do
    match cs with
    | [] => .error .tooShort
    | c :: rest =>
      if c = 'Z' ∨ c = 'z' then
        return ({ fields with offset := 0 }, rest)
      else if c = '+' ∨ c = '-' ∨ c = '−' then
        let (minutes, rest) ← readOffset (if c = '+' then 1 else -1) rest
        return ({ fields with offset := minutes }, rest)
      else
        .error .invalid

/-- Digits, with zeros before them up to this width. -/
def padded (width n : Nat) : List Char :=
  let digits := Nat.toDigits 10 n
  List.replicate (width - digits.length) '0' ++ digits

/-- Writes a number with all its digits; a year that has not four of them gets a sign. -/
def writeNumber (width : Nat) (value : Int) : List Char :=
  if value < 0 then '-' :: padded width value.natAbs
  else if Nat.pow 10 width ≤ value.natAbs then '+' :: padded width value.natAbs
  else padded width value.natAbs

/-- Writes one item. A part of a second is left out, and a distance from UTC is `Z`. -/
def write (fields : Fields) : Item → List Char
  | loose field => writeNumber field.width (field.get fields)
  | strict field => writeNumber field.width (field.get fields)
  | mark allowed => allowed.take 1
  | blanks => [' ']
  | fraction => []
  | offset => ['Z']

end Item

/-- Reads all items and nothing more. -/
def readItems (fields : Fields) : List Item → List Char → Except Fault Fields
  | [], [] => .ok fields
  | [], _ :: _ => .error .tooLong
  | item :: items, cs => do
    let (fields, rest) ← item.read fields cs
    readItems fields items rest

def writeItems (fields : Fields) (items : List Item) : List Char := items.flatMap (·.write fields)

/-- The years that dates may have. -/
def yearRange : Int × Int := (-262143, 262142)

/-- The date and time in UTC, if there is such a day. -/
def Fields.resolve (f : Fields) : Except Fault DateTime :=
  if yearRange.1 ≤ f.year ∧ f.year ≤ yearRange.2 then
    match Date.ofFields? f.year f.month f.day with
    | none => .error .outOfRange
    | some date =>
      let (second, leap) := if f.second = 60 then (59, 1000000000) else (f.second, 0)
      if h : f.hour < 24 ∧ f.minute < 60 ∧ second < 60 ∧ leap + f.nanos < 2000000000 then
        .ok (plusMinutes ⟨date, f.hour, f.minute, second, leap + f.nanos,
          h.1, h.2.1, h.2.2.1, h.2.2.2⟩ (-f.offset))
      else
        .error .outOfRange
  else
    .error .outOfRange

/-- The fields of a date and time in UTC. -/
def fields (d : DateTime) : Fields where
  year := d.date.year
  month := d.date.month
  day := d.date.day
  hour := d.clock.hour
  minute := d.clock.minute
  second := d.clock.second + d.clock.nanos / 1000000000
  nanos := d.clock.nanos % 1000000000

def parse (items : List Item) (text : String) : Except Fault DateTime := do
  (← readItems {} items text.toList).resolve

def format (items : List Item) (d : DateTime) : String := String.ofList (writeItems d.fields items)

end DataGrid.DateTime
