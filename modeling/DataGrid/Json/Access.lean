import DataGrid.Json

/-!
# Parts of JSON values

The values that parts of a JSON value hold, each `none` when the part is of another kind. A missing
member is the same as one that is `null`, and one that repeats has no value.
-/

namespace DataGrid.Json

def text? : Json → Option String
  | .string s => some s
  | _ => none

/-- Any number. -/
def number? : Json → Option Binary64
  | .number n => some n.toBinary64
  | _ => none

/-- A choice by its name, or as an object whose only member has its name and an empty value. -/
def name? : Json → Option String
  | .string s => some s
  | .object [(s, .null)] => some s
  | .object [(s, .object [])] => some s
  | _ => none

/-- A value that may be missing. -/
def optional {α : Type} (read : Json → Option α) : Json → Option (Option α)
  | .null => some none
  | value => some <$> read value

/-- The value of the member with this name. -/
def member? (members : List (String × Json)) (name : String) : Option Json :=
  match members.filter (·.1 = name) with
  | [] => some .null
  | [(_, value)] => some value
  | _ => none

/-- The value of a member that may be missing. -/
def part? {α : Type} (members : List (String × Json)) (name : String) (read : Json → Option α) :
    Option (Option α) :=
  member? members name >>= optional read

end DataGrid.Json
