import DataGrid.Filter

/-!
# Names of tests and joins

Each test, join and family is written by its name. A name that is not in the list is read as an
unknown test or join; there is no unknown family.
-/

namespace DataGrid.Filter

/-- The one of `choices` that has this name. -/
def named? {α : Type} (choices : List α) (nameOf : α → String) (name : String) : Option α :=
  choices.find? fun choice => nameOf choice = name

namespace Join

def name : Join → String
  | and => "AND"
  | or => "OR"
  | unknown => "Unknown"

def ofName (s : String) : Join := (named? [and, or] name s).getD unknown

end Join

namespace TextTest

def name : TextTest → String
  | equals => "equals"
  | notEqual => "notEqual"
  | contains => "contains"
  | notContains => "notContains"
  | startsWith => "startsWith"
  | endsWith => "endsWith"
  | blank => "blank"
  | notBlank => "notBlank"
  | unknown => "unknown"

def known : List TextTest :=
  [equals, notEqual, contains, notContains, startsWith, endsWith, blank, notBlank]

def ofName (s : String) : TextTest := (named? known name s).getD unknown

end TextTest

namespace ScalarTest

def name : ScalarTest → String
  | equals => "equals"
  | notEqual => "notEqual"
  | lessThan => "lessThan"
  | lessThanOrEqual => "lessThanOrEqual"
  | greaterThan => "greaterThan"
  | greaterThanOrEqual => "greaterThanOrEqual"
  | blank => "blank"
  | notBlank => "notBlank"
  | inRange => "inRange"
  | unknown => "unknown"

def known : List ScalarTest :=
  [equals, notEqual, lessThan, lessThanOrEqual, greaterThan, greaterThanOrEqual, blank, notBlank,
    inRange]

def ofName (s : String) : ScalarTest := (named? known name s).getD unknown

end ScalarTest

namespace BooleanTest

def name : BooleanTest → String
  | isTrue => "true"
  | isFalse => "false"
  | unknown => "Unknown"

def ofName (s : String) : BooleanTest := (named? [isTrue, isFalse] name s).getD unknown

end BooleanTest

namespace Family

def name : Family → String
  | text => "text"
  | number => "number"
  | boolean => "boolean"
  | date => "date"
  | object => "object"

/-- The families in the order of their numbers. -/
def all : List Family := [text, number, boolean, date, object]

def ofName? (s : String) : Option Family := named? all name s

end Family

end DataGrid.Filter
