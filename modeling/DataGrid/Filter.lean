import DataGrid.Binary64
import DataGrid.Dictionary

/-!
# Filters

A filter model has a filter node for each filtered column. A node tests the cells of its column, or
joins the tests of further nodes. Tests and joins with names that are not known are kept as unknown
ones, which have no effect on their own.
-/

namespace DataGrid.Filter

/-- How a group of nodes is joined. -/
inductive Join where
  | and
  | or
  | unknown
deriving DecidableEq, Repr

/-- Tests of text. -/
inductive TextTest where
  | equals
  | notEqual
  | contains
  | notContains
  | startsWith
  | endsWith
  | blank
  | notBlank
  | unknown
deriving DecidableEq, Repr

/-- Tests of numbers and dates. -/
inductive ScalarTest where
  | equals
  | notEqual
  | lessThan
  | lessThanOrEqual
  | greaterThan
  | greaterThanOrEqual
  | blank
  | notBlank
  | inRange
  | unknown
deriving DecidableEq, Repr

/-- Tests of truth values. -/
inductive BooleanTest where
  | isTrue
  | isFalse
  | unknown
deriving DecidableEq, Repr

/-- The families of filters, by the columns that they are for. -/
inductive Family where
  | text
  | number
  | boolean
  | date
  | object
deriving DecidableEq, Repr

/-- A test of a family with what it compares with; each part may be missing. -/
inductive Condition where
  | text (test : Option TextTest) (value : Option String)
  | number (test : Option ScalarTest) (value upper : Option Binary64)
  | boolean (test : Option BooleanTest)
  | date (test : Option ScalarTest) (value upper : Option String)
  /-- A test of the text of a column of any type. -/
  | object (test : Option TextTest) (value : Option String)
deriving DecidableEq

def Condition.family : Condition → Family
  | text .. => .text
  | number .. => .number
  | boolean .. => .boolean
  | date .. => .date
  | object .. => .object

/-- A filter node. A group has a condition of its own, which only tells its family; and a condition
without nodes to join may still have been sent with a join. -/
inductive Node where
  | single (condition : Condition) (join : Option Join)
  | group (join : Option Join) (nodes : List Node) (own : Condition)

namespace Node

def condition : Node → Condition
  | single condition _ => condition
  | group _ _ own => own

def join : Node → Option Join
  | single _ join => join
  | group join _ _ => join

def isGroup : Node → Bool
  | single .. => false
  | group .. => true

def family (node : Node) : Family := node.condition.family

mutual

/-- The number of nodes on the longest way down. -/
def depth : Node → Nat
  | single .. => 1
  | group _ nodes _ => 1 + greatestDepth nodes

def greatestDepth : List Node → Nat
  | [] => 0
  | node :: nodes => max (depth node) (greatestDepth nodes)

end

end Node

/-- The filter nodes by the ids of their columns. -/
abbrev Model := Dictionary Node

end DataGrid.Filter
