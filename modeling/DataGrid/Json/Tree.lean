import DataGrid.Json.Number
import DataGrid.Json.Quoted

/-!
# Trees of JSON texts

A text is read into a tree that goes as far as the text makes sense and says where it stops. What
a reader expects plays no part in this: decoding a type is a walk over the tree from left to right,
and the first fault on the walk is the fault of the text. Numbers beyond binary64, strings with
unpaired surrogates and deep nesting stand in the tree; whether they are faults is for the walk.
-/

namespace DataGrid.Json

mutual

inductive Tree where
  | null
  | bool (value : Bool)
  /-- A number, `none` when it is beyond every finite one. -/
  | number (value : Option JsonNumber)
  /-- A string, `none` when it holds an unpaired surrogate. -/
  | string (value : Option String)
  | array (items : Items)
  | object (members : Members)
  /-- No value stands here, or it breaks off before its end; `first` is what it starts with. -/
  | broken (first : Option Char) (place : Cut)

/-- The items of an array from some place on. -/
inductive Items where
  | closed
  /-- Neither an end nor a comma with a further item. -/
  | cut (fault : Fault)
  | item (value : Tree) (rest : Items)

/-- The members of an object from some place on. -/
inductive Members where
  | closed
  /-- Neither an end nor a comma with a further member, or no name for the first one. -/
  | cut (place : Cut)
  /-- A comma with no name behind it. -/
  | dangling (place : Cut)
  /-- A member; its name is `none` when it holds an unpaired surrogate. -/
  | member (name : Option String) (value : Tree) (rest : Members)

end

instance : Inhabited Tree := ⟨.null⟩

/-- The fault of a reader that expects a value of another kind. Scalars are read to their end
first, arrays and objects are not. -/
def Tree.refuse : Tree → Fault
  | .number none => .malformed
  | .string none => .malformed
  | .broken _ place => place.decoding
  | _ => .mismatch

def isSpace (c : Char) : Bool := c = ' ' || c = '\t' || c = '\n' || c = '\r'

def dropSpace (cs : List Char) : List Char := cs.dropWhile isSpace

/-- Reads a fixed word whose first letter has been seen. -/
def readWord (value : Tree) (first : Char) : List Char → List Char → Tree × Option (List Char)
  | [], rest => (value, some rest)
  | _ :: _, [] => (.broken (some first) .ended, none)
  | w :: word, c :: rest =>
    if c = w then readWord value first word rest else (.broken (some first) .malformed, none)

def readNumber (cs : List Char) : Tree × Option (List Char) :=
  match JsonNumber.scan cs with
  | .numeral parts rest => (.number parts.value?, some rest)
  | .cut place => (.broken cs.head? place, none)

def readString (cs : List Char) : Tree × Option (List Char) :=
  match Quoted.read cs with
  | .closed text rest => (.string (text.map String.ofList), some rest)
  | .cut place => (.broken (some '\"') place, none)

/-- What follows a name up to its value, or what the value is when there is none. -/
def afterName (cs : List Char) : Except Tree (List Char) :=
  match dropSpace cs with
  | [] => .error (.broken none .ended)
  | ':' :: rest => .ok rest
  | _ => .error (.broken none .malformed)

mutual

/-- Reads one value and says what follows it, unless the text breaks off inside. Each call of the
readers below has a shorter text, so the length of the text is fuel enough. -/
def Tree.read (fuel : Nat) (cs : List Char) : Tree × Option (List Char) :=
  match fuel with
  | 0 => (.broken none .ended, none)
  | fuel + 1 =>
    match dropSpace cs with
    | [] => (.broken none .ended, none)
    | 'n' :: rest => readWord .null 'n' "ull".toList rest
    | 't' :: rest => readWord (.bool true) 't' "rue".toList rest
    | 'f' :: rest => readWord (.bool false) 'f' "alse".toList rest
    | '\"' :: rest => readString rest
    | '[' :: rest =>
      let (items, left) := Items.read fuel rest
      (.array items, left)
    | '{' :: rest =>
      let (members, left) := Members.read fuel rest
      (.object members, left)
    | c :: rest =>
      if c = '-' || c.isDigit then readNumber (c :: rest)
      else (.broken (some c) .malformed, none)

/-- Reads the items of an array after its bracket. -/
def Items.read (fuel : Nat) (cs : List Char) : Items × Option (List Char) :=
  match fuel with
  | 0 => (.cut .ended, none)
  | fuel + 1 =>
    match dropSpace cs with
    | [] => (.cut .ended, none)
    | ']' :: rest => (.closed, some rest)
    | rest => Items.readItem fuel rest

/-- Reads an item and those after it. -/
def Items.readItem (fuel : Nat) (cs : List Char) : Items × Option (List Char) :=
  match fuel with
  | 0 => (.cut .ended, none)
  | fuel + 1 =>
    match Tree.read fuel cs with
    | (value, none) => (.item value .closed, none)
    | (value, some rest) =>
      match dropSpace rest with
      | [] => (.item value (.cut .ended), none)
      | ']' :: rest => (.item value .closed, some rest)
      | ',' :: rest =>
        let (items, left) := Items.readItem fuel rest
        (.item value items, left)
      | _ => (.item value (.cut .malformed), none)

/-- Reads the members of an object after its brace. -/
def Members.read (fuel : Nat) (cs : List Char) : Members × Option (List Char) :=
  match fuel with
  | 0 => (.cut .ended, none)
  | fuel + 1 =>
    match dropSpace cs with
    | [] => (.cut .ended, none)
    | '}' :: rest => (.closed, some rest)
    | '\"' :: rest => Members.readMember fuel .cut rest
    | _ => (.cut .malformed, none)

/-- Reads a member from inside its name on, and those after it; `broken` says what an unfinished
name is. -/
def Members.readMember (fuel : Nat) (broken : Cut → Members) (cs : List Char) :
    Members × Option (List Char) :=
  match fuel with
  | 0 => (.cut .ended, none)
  | fuel + 1 =>
    match Quoted.read cs with
    | .cut place => (broken place, none)
    | .closed name rest =>
      let name := name.map String.ofList
      match afterName rest with
      | .error value => (.member name value .closed, none)
      | .ok rest =>
        match Tree.read fuel rest with
        | (value, none) => (.member name value .closed, none)
        | (value, some rest) =>
          match dropSpace rest with
          | [] => (.member name value (.cut .ended), none)
          | '}' :: rest => (.member name value .closed, some rest)
          | ',' :: rest =>
            match dropSpace rest with
            | [] => (.member name value (.dangling .ended), none)
            | '\"' :: rest =>
              let (members, left) := Members.readMember fuel .dangling rest
              (.member name value members, left)
            | _ => (.member name value (.dangling .malformed), none)
          | _ => (.member name value (.cut .malformed), none)

end

/-- A whole text: its value, and whether nothing but space follows it. -/
structure Document where
  value : Tree
  complete : Bool

def Document.read (text : String) : Document :=
  let cs := text.toList
  let (value, rest) := Tree.read (3 * cs.length + 3) cs
  ⟨value, (rest.map dropSpace) = some []⟩

end DataGrid.Json
