import DataGrid.Sort

/-!
# Pages

A request asks for the rows from a first row on and before an end row. The page that answers it has
as many rows as were asked for and starts at a multiple of that count.
-/

namespace DataGrid

/-- A page of rows in an order. -/
structure Page where
  index : UInt64
  size : UInt64
  sort : List Sort.Key

/-- Why a range of rows is no page. -/
inductive PageError where
  | missingBounds (start stop : Option Int64)
  | emptyRange (start stop : Int64)
  | nonPositiveSize (size : Int64)
  | negativeStart (start : Int64)
deriving DecidableEq

namespace PageError

/-- A bound in a message, where it may be missing. -/
def bound : Option Int64 → String
  | none => "None"
  | some i => "Some(" ++ toString i.toInt ++ ")"

def message : PageError → String
  | missingBounds start stop =>
    "Start row or end row cannot be null: startRow=" ++ bound start ++ ", endRow=" ++ bound stop
  | emptyRange start stop =>
    "Start row must be less than end row: startRow=" ++ toString start.toInt
      ++ ", endRow=" ++ toString stop.toInt
  | nonPositiveSize size => "Page size must be greater than zero: pageSize=" ++ toString size.toInt
  | negativeStart start => "Start row cannot be negative: startRow=" ++ toString start.toInt

end PageError

namespace Page

/-- The number of rows before the page. -/
def offset (page : Page) : UInt64 := page.index * page.size

/-- The page of a range of rows. -/
def ofRange (start stop : Option Int64) (sort : List Sort.Key) : Except PageError Page :=
  match start, stop with
  | some start, some stop =>
    if stop ≤ start then .error (.emptyRange start stop)
    else if start < 0 then .error (.negativeStart start)
    else
      let size := stop - start
      if size ≤ 0 then .error (.nonPositiveSize size)
      else .ok ⟨start.toUInt64 / size.toUInt64, size.toUInt64, sort⟩
  | start, stop => .error (.missingBounds start stop)

def toJson (page : Page) : Json :=
  .object [("pageIndex", .nat page.index.toNat), ("pageSize", .nat page.size.toNat),
    ("sort", Sort.toJson page.sort)]

end Page

end DataGrid
