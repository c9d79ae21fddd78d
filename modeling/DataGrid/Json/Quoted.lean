import DataGrid.Json.Fault

/-!
# Strings in JSON texts

Only quotes, backslashes and control characters are escaped when a string is written. All escapes
are read; an escaped surrogate has to be one half of a pair, and a string with an unpaired one can
be skipped but not decoded.
-/

namespace DataGrid.Json

/-- What stands after an opening quote. -/
inductive Quoted where
  /-- The string, `none` when it holds an unpaired surrogate, and what follows it. -/
  | closed (text : Option (List Char)) (rest : List Char)
  | cut (cut : Cut)

namespace Quoted

def push (c : Char) : Quoted → Quoted
  | .closed text rest => .closed (text.map (c :: ·)) rest
  | .cut place => .cut place

/-- An unpaired surrogate stands before the string. -/
def spoil : Quoted → Quoted
  | .closed _ rest => .closed none rest
  | .cut place => .cut ⟨.malformed, place.skipping⟩

def hexDigit? (c : Char) : Option Nat :=
  if c.isDigit then some (c.toNat - 48)
  else if 'a' ≤ c ∧ c ≤ 'f' then some (c.toNat - 87)
  else if 'A' ≤ c ∧ c ≤ 'F' then some (c.toNat - 55)
  else none

def hexUnit? (a b c d : Char) : Option Nat := do
  return 4096 * (← hexDigit? a) + 256 * (← hexDigit? b) + 16 * (← hexDigit? c) + (← hexDigit? d)

/-- Four bytes are taken for the digits of an escape, and fewer are not looked at. -/
def shortUnit (cs : List Char) : Cut :=
  if (String.ofList cs).utf8ByteSize < 4 then .ended else .malformed

def isLeading (unit : Nat) : Bool := 0xD800 ≤ unit && unit < 0xDC00

def isTrailing (unit : Nat) : Bool := 0xDC00 ≤ unit && unit < 0xE000

def ofPair (leading trailing : Nat) : Char :=
  Char.ofNat (0x10000 + (leading - 0xD800) * 0x400 + (trailing - 0xDC00))

/-- The character of an escape of one letter. -/
def letter? : Char → Option Char
  | '\"' => some '\"'
  | '\\' => some '\\'
  | '/' => some '/'
  | 'b' => some '\x08'
  | 'f' => some '\x0c'
  | 'n' => some '\n'
  | 'r' => some '\r'
  | 't' => some '\t'
  | _ => none

/-- What follows a leading surrogate, if one stands before it, is not its other half. -/
def unpaired (leading : Option Nat) (q : Quoted) : Quoted := if leading.isSome then q.spoil else q

/-- Reads the rest of a string, after a leading surrogate or not. -/
def readFrom (leading : Option Nat) : List Char → Quoted
  | [] => .cut .ended
  | ['\\'] => .cut .ended
  | '\\' :: 'u' :: a :: b :: c :: d :: rest =>
    match hexUnit? a b c d with
    | none => .cut .malformed
    | some unit =>
      if isTrailing unit then
        match leading with
        | some first => (readFrom none rest).push (ofPair first unit)
        | none => (readFrom none rest).spoil
      else if isLeading unit then
        unpaired leading (readFrom (some unit) rest)
      else
        unpaired leading ((readFrom none rest).push (Char.ofNat unit))
  | '\\' :: 'u' :: short => .cut (shortUnit short)
  | '\\' :: c :: rest =>
    unpaired leading <| match letter? c with
    | some e => (readFrom none rest).push e
    | none => .cut .malformed
  | c :: rest =>
    unpaired leading <|
      if c = '\"' then .closed (some []) rest
      else if c.toNat < 0x20 then .cut .malformed
      else (readFrom none rest).push c

/-- Reads a string after its opening quote. -/
def read (cs : List Char) : Quoted := readFrom none cs

def hexChars (n : Nat) : List Char := [Nat.digitChar (n / 16), Nat.digitChar (n % 16)]

/-- A character as it stands between quotes. -/
def escapeChar (c : Char) : List Char :=
  if c = '\"' then ['\\', '\"']
  else if c = '\\' then ['\\', '\\']
  else if c = '\x08' then ['\\', 'b']
  else if c = '\x0c' then ['\\', 'f']
  else if c = '\n' then ['\\', 'n']
  else if c = '\r' then ['\\', 'r']
  else if c = '\t' then ['\\', 't']
  else if c.toNat < 0x20 then '\\' :: 'u' :: '0' :: '0' :: hexChars c.toNat
  else [c]

/-- A string between quotes. -/
def write (s : String) : List Char := '\"' :: (s.toList.flatMap escapeChar ++ ['\"'])

end Quoted

end DataGrid.Json
