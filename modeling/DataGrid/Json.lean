import DataGrid.Binary64

/-!
# JSON values

Objects keep the order of their members. Numbers are integers where their text is a plain integer
of 64 bits, and binary64 numbers otherwise.
-/

namespace DataGrid

/-- A number in JSON. -/
inductive JsonNumber where
  | integer (value : Int)
  | real (value : Binary64.Finite)
deriving DecidableEq

inductive Json where
  | null
  | bool (value : Bool)
  | number (value : JsonNumber)
  | string (value : String)
  | array (items : List Json)
  | object (members : List (String × Json))

/-- The nearest binary64 number; an integer of 64 bits always has one. -/
def JsonNumber.toBinary64 : JsonNumber → Binary64
  | .integer i => .ofRatio (decide (i < 0)) i.natAbs 1
  | .real x => .finite x

namespace Json

def isNull : Json → Bool
  | .null => true
  | _ => false

def text (s : String) : Json := .string s

def nat (n : Nat) : Json := .number (.integer n)

def int (i : Int) : Json := .number (.integer i)

/-- A binary64 number, or `null` for one that JSON has no text for. -/
def real : Binary64 → Json
  | .finite x => .number (.real x)
  | _ => .null

/-- `null` for a missing value. -/
def ofOption {α : Type} (write : α → Json) (value : Option α) : Json :=
  (value.map write).getD .null

/-- The members with one more: a name that is there keeps its place and takes the new value. -/
def put (members : List (String × Json)) (name : String) (value : Json) : List (String × Json) :=
  match members with
  | [] => [(name, value)]
  | (n, v) :: rest => if n = name then (n, value) :: rest else (n, v) :: put rest name value

end Json

end DataGrid
