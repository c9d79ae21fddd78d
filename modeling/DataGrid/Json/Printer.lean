import DataGrid.Json.Number
import DataGrid.Json.Quoted

/-!
# Writing JSON

A value has two texts: the compact one without blanks, and the indented one with each item and
member on a line of its own. Empty arrays and objects are `[]` and two braces in both.
-/

namespace DataGrid.Json

mutual

/-- The compact text of a value. -/
def chars : Json → List Char
  | .null => "null".toList
  | .bool true => "true".toList
  | .bool false => "false".toList
  | .number n => n.chars
  | .string s => Quoted.write s
  | .array [] => ['[', ']']
  | .array (item :: items) => '[' :: (chars item ++ itemsChars items)
  | .object [] => ['{', '}']
  | .object ((name, value) :: members) =>
    '{' :: (Quoted.write name ++ ':' :: (chars value ++ membersChars members))

/-- The further items of an array, and its end. -/
def itemsChars : List Json → List Char
  | [] => [']']
  | item :: items => ',' :: (chars item ++ itemsChars items)

/-- The further members of an object, and its end. -/
def membersChars : List (String × Json) → List Char
  | [] => ['}']
  | (name, value) :: members =>
    ',' :: (Quoted.write name ++ ':' :: (chars value ++ membersChars members))

end

def compact (value : Json) : String := String.ofList value.chars

/-- A new line, indented by two blanks a level. -/
def newLine (level : Nat) : List Char := '\n' :: List.replicate (2 * level) ' '

mutual

/-- The indented text of a value that starts at this level. -/
def indentedChars (level : Nat) : Json → List Char
  | .null => "null".toList
  | .bool true => "true".toList
  | .bool false => "false".toList
  | .number n => n.chars
  | .string s => Quoted.write s
  | .array [] => ['[', ']']
  | .array (item :: items) =>
    '[' :: (newLine (level + 1) ++ indentedChars (level + 1) item ++ indentedItems level items)
  | .object [] => ['{', '}']
  | .object ((name, value) :: members) =>
    '{' :: (newLine (level + 1) ++ Quoted.write name ++ ':' :: ' ' ::
      (indentedChars (level + 1) value ++ indentedMembers level members))

def indentedItems (level : Nat) : List Json → List Char
  | [] => newLine level ++ [']']
  | item :: items =>
    ',' :: (newLine (level + 1) ++ indentedChars (level + 1) item ++ indentedItems level items)

def indentedMembers (level : Nat) : List (String × Json) → List Char
  | [] => newLine level ++ ['}']
  | (name, value) :: members =>
    ',' :: (newLine (level + 1) ++ Quoted.write name ++ ':' :: ' ' ::
      (indentedChars (level + 1) value ++ indentedMembers level members))

end

def indented (value : Json) : String := String.ofList (value.indentedChars 0)

end DataGrid.Json
