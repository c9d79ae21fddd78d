import DataGrid.DateTime.Pattern

/-!
# Texts of dates and times

Filters use the grid's own form, `2024-03-01 08:00:00`. Cells may also hold ISO forms: with a
distance from UTC, without one, or a date alone, which means midnight.
-/

namespace DataGrid.DateTime

/-- The form of date filters and of parameters. -/
def gridPattern : List Item :=
  [.loose .year, .mark ['-'], .loose .month, .mark ['-'], .loose .day, .blanks,
    .loose .hour, .mark [':'], .loose .minute, .mark [':'], .loose .second]

/-- The strict form with a distance from UTC. -/
def zonedPattern : List Item :=
  [.strict .year, .mark ['-'], .strict .month, .mark ['-'], .strict .day, .mark ['T', 't', ' '],
    .strict .hour, .mark [':'], .strict .minute, .mark [':'], .strict .second, .fraction, .offset]

/-- The form with a `T` and no distance from UTC. -/
def localPattern : List Item :=
  [.loose .year, .mark ['-'], .loose .month, .mark ['-'], .loose .day, .mark ['T'],
    .loose .hour, .mark [':'], .loose .minute, .mark [':'], .loose .second, .fraction]

def datePattern : List Item :=
  [.loose .year, .mark ['-'], .loose .month, .mark ['-'], .loose .day]

/-- Reads a text in the grid's form. -/
def ofGrid (text : String) : Except Fault DateTime := parse gridPattern text

/-- Writes the grid's form. -/
def toGrid (d : DateTime) : String := format gridPattern d

/-- The forms of cells, in the order in which they are tried. -/
def cellPatterns : List (List Item) := [gridPattern, zonedPattern, localPattern, datePattern]

/-- The date and time in a text cell, if there is one. -/
def ofCell? (text : String) : Option DateTime :=
  cellPatterns.findSome? fun items => (parse items text).toOption

end DataGrid.DateTime
