import DataGrid.Json.Reader

/-!
# Reading choices

A choice is a text of its own: a name, or an object whose only member has the name and `null`. The
name is looked up as soon as it is read.
-/

namespace DataGrid.Json.Reader

variable {α : Type}

/-- The choice with a name. -/
def choose (ofName? : String → Option α) (name : String) : Except Fault α :=
  match ofName? name with
  | some choice => .ok choice
  | none => .error .mismatch

/-- What has to follow the only member of a choice. -/
def onlyMember : Members → Except Fault Unit
  | .closed => .ok ()
  | .cut place => .error place.decoding
  | _ => .error .malformed

/-- A choice by the members of its object. -/
def choiceMembers (ofName? : String → Option α) : Members → Except Fault α
  | .closed => .error .malformed
  | .cut place => .error place.decoding
  | .dangling place => .error place.decoding
  | .member none _ _ => .error .malformed
  | .member (some name) value rest => do
    let choice ← choose ofName? name
    match value with
    | .null => onlyMember rest
    | value => .error value.refuse
    return choice

/-- A choice. Values of other kinds are refused by their first letter, so that it does not matter
whether they end. -/
def choice (ofName? : String → Option α) : Reader α := fun room tree =>
  match tree, room with
  | .string (some name), _ => choose ofName? name
  | .object _, 0 => .error .malformed
  | .object members, _ + 1 => choiceMembers ofName? members
  | .broken none place, _ => .error place.decoding
  | .broken (some '\"') place, _ => .error place.decoding
  | _, _ => .error .malformed

end DataGrid.Json.Reader
