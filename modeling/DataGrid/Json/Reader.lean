import DataGrid.Json.Tree

/-!
# Reading types from JSON trees

A reader walks over a tree from left to right and stops at the first fault, in the text or in its
meaning. Values are read in one of two ways. A decoded value has to have a meaning in every part and
may be nested no deeper than `maxDepth`; of a skipped one only the form is checked.
-/

namespace DataGrid.Json

mutual

/-- The value of a tree, with every member of its objects in place, repeated or not; `room` is the
number of arrays and objects that may still be entered. -/
def Tree.raw (room : Nat) : Tree → Except Fault Json
  | .null => .ok .null
  | .bool b => .ok (.bool b)
  | .number (some n) => .ok (.number n)
  | .number none => .error .malformed
  | .string (some s) => .ok (.string s)
  | .string none => .error .malformed
  | .array items =>
    match room with
    | 0 => .error .malformed
    | room + 1 => .array <$> items.raw room
  | .object members =>
    match room with
    | 0 => .error .malformed
    | room + 1 => .object <$> members.raw room
  | .broken _ place => .error place.decoding

def Items.raw (room : Nat) : Items → Except Fault (List Json)
  | .closed => .ok []
  | .cut fault => .error fault
  | .item value rest => do
    let value ← value.raw room
    return value :: (← rest.raw room)

def Members.raw (room : Nat) : Members → Except Fault (List (String × Json))
  | .closed => .ok []
  | .cut place => .error place.decoding
  | .dangling place => .error place.decoding
  | .member none _ _ => .error .malformed
  | .member (some name) value rest => do
    let value ← value.raw room
    return (name, value) :: (← rest.raw room)

end

mutual

/-- Skips a value: numbers may be beyond binary64, surrogates unpaired, and nesting has no limit. -/
def Tree.skim : Tree → Except Fault Unit
  | .array items => items.skim
  | .object members => members.skim
  | .broken _ place => .error place.skipping
  | _ => .ok ()

def Items.skim : Items → Except Fault Unit
  | .closed => .ok ()
  | .cut fault => .error fault
  | .item value rest => do
    value.skim
    rest.skim

def Members.skim : Members → Except Fault Unit
  | .closed => .ok ()
  | .cut place => .error place.skipping
  | .dangling place => .error place.skipping
  | .member _ value rest => do
    value.skim
    rest.skim

end

mutual

/-- The value in which no object repeats a name: a repeated member keeps its first place and takes
its last value. -/
def merged : Json → Json
  | .array items => .array (mergedItems items)
  | .object members => .object (mergedMembers [] members)
  | value => value

def mergedItems : List Json → List Json
  | [] => []
  | item :: items => merged item :: mergedItems items

/-- The members put to those before them. -/
def mergedMembers (before : List (String × Json)) : List (String × Json) → List (String × Json)
  | [] => before
  | (name, value) :: members => mergedMembers (put before name (merged value)) members

end

/-- How many arrays and objects a decoded value may have around its innermost part. -/
def maxDepth : Nat := 127

/-- Decodes a tree, where `room` arrays and objects may still be entered. -/
abbrev Reader (α : Type) := (room : Nat) → Tree → Except Fault α

/-- Reads a whole text; only space may follow the value. -/
def decode {α : Type} (read : Reader α) (text : String) : Except Fault α := do
  let document := Document.read text
  let value ← read maxDepth document.value
  if document.complete then .ok value else .error .malformed

namespace Reader

variable {α σ : Type}

/-- Any value. -/
def value : Reader Json := fun room tree => merged <$> tree.raw room

def text : Reader String := fun _ tree =>
  match tree with
  | .string (some s) => .ok s
  | tree => .error tree.refuse

def flag : Reader Bool := fun _ tree =>
  match tree with
  | .bool b => .ok b
  | tree => .error tree.refuse

/-- An integer of 64 bits with a sign, written as an integer. -/
def int64 : Reader Int64 := fun _ tree =>
  match tree with
  | .number (some (.integer i)) =>
    if -9223372036854775808 ≤ i ∧ i < 9223372036854775808 then .ok (.ofInt i) else .error .mismatch
  | tree => .error tree.refuse

/-- A natural number of 64 bits, written as an integer. -/
def nat64 : Reader Nat := fun _ tree =>
  match tree with
  | .number (some (.integer (.ofNat n))) => .ok n
  | tree => .error tree.refuse

/-- `null` as a missing value. What starts like it cannot be anything else. -/
def orNull (read : Reader α) : Reader (Option α) := fun room tree =>
  match tree with
  | .null => .ok none
  | .broken (some 'n') place => .error place.decoding
  | tree => some <$> read room tree

/-- `null` as a default. -/
def orDefault (default : α) (read : Reader α) : Reader α := fun room tree =>
  (·.getD default) <$> orNull read room tree

def listItems (read : Tree → Except Fault α) : Items → Except Fault (List α)
  | .closed => .ok []
  | .cut fault => .error fault
  | .item value rest => do
    let value ← read value
    return value :: (← listItems read rest)

/-- An array of values that are all read the same way. -/
def list (read : Reader α) : Reader (List α) := fun room tree =>
  match tree, room with
  | .array _, 0 => .error .malformed
  | .array items, room + 1 => listItems (read room) items
  | tree, _ => .error tree.refuse

def entryMembers (read : Tree → Except Fault α) : Members → Except Fault (List (String × α))
  | .closed => .ok []
  | .cut place => .error place.decoding
  | .dangling place => .error place.decoding
  | .member none _ _ => .error .malformed
  | .member (some name) value rest => do
    let value ← read value
    return (name, value) :: (← entryMembers read rest)

/-- An object with any names, whose values are all read the same way. -/
def entries (read : Reader α) : Reader (List (String × α)) := fun room tree =>
  match tree, room with
  | .object _, 0 => .error .malformed
  | .object members, room + 1 => entryMembers (read room) members
  | tree, _ => .error tree.refuse

/-- A field of a record: its name, and how its value goes into the record. -/
structure Field (σ : Type) where
  name : String
  read : (room : Nat) → Tree → σ → Except Fault σ

/-- A field that is read and then stored. -/
def field (name : String) (read : Reader α) (store : α → σ → σ) : Field σ :=
  ⟨name, fun room tree record => (store · record) <$> read room tree⟩

/-- What a record makes of a member that is no field. -/
abbrev Stranger (σ : Type) := (room : Nat) → String → Tree → σ → Except Fault σ

/-- Members that are no field are skipped. -/
def skipped : Stranger σ := fun _ _ tree record => do
  tree.skim
  return record

/-- Reads the members of a record. A field may stand once. -/
def recordMembers (fields : List (Field σ)) (stranger : Stranger σ) (room : Nat)
    (seen : List String) (record : σ) : Members → Except Fault σ
  | .closed => .ok record
  | .cut place => .error place.decoding
  | .dangling place => .error place.decoding
  | .member none _ _ => .error .malformed
  | .member (some name) value rest =>
    match fields.find? (·.name = name) with
    | none => do
      let record ← stranger room name value record
      recordMembers fields stranger room seen record rest
    | some field =>
      if name ∈ seen then
        .error .mismatch
      else do
        let record ← field.read room value record
        recordMembers fields stranger room (name :: seen) record rest

/-- Reads the fields of a record by their places. Fields at the end may be left out of a `short`
array. -/
def recordItems (short : Bool) (room : Nat) (record : σ) : List (Field σ) → Items → Except Fault σ
  | [], .closed => .ok record
  | _ :: _, .closed => if short then .ok record else .error .mismatch
  | _, .cut fault => .error fault
  | [], .item _ _ => .error .malformed
  | field :: fields, .item value rest => do
    let record ← field.read room value record
    recordItems short room record fields rest

/-- A record: an object with its fields, or an array of them in their order. -/
def record (short : Bool) (fields : List (Field σ)) (start : σ) : Reader σ := fun room tree =>
  match tree, room with
  | .array _, 0 => .error .malformed
  | .object _, 0 => .error .malformed
  | .array items, room + 1 => recordItems short room start fields items
  | .object members, room + 1 => recordMembers fields skipped room [] start members
  | tree, _ => .error tree.refuse

/-- A record that is always an object. -/
def openRecord (fields : List (Field σ)) (stranger : Stranger σ) (start : σ) : Reader σ :=
  fun room tree =>
    match tree, room with
    | .object _, 0 => .error .malformed
    | .object members, room + 1 => recordMembers fields stranger room [] start members
    | tree, _ => .error tree.refuse

/-- A field that has to be there. -/
def required (value : Option α) : Except Fault α :=
  match value with
  | some value => .ok value
  | none => .error .mismatch

end Reader

end DataGrid.Json
