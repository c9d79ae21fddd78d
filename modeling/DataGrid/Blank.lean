import DataGrid.CodeRanges

/-!
# Blank characters

The characters with Unicode's property White_Space, and the removal of blanks at the ends of a text.
Numbers in cells, date fields and lines of a settings file may have blanks around them.
-/

namespace DataGrid

/-- The code points with the property White_Space, as inclusive ranges. -/
def blankRanges : List (Nat × Nat) :=
  [(0x09, 0x0D), (0x20, 0x20), (0x85, 0x85), (0xA0, 0xA0), (0x1680, 0x1680), (0x2000, 0x200A),
    (0x2028, 0x2029), (0x202F, 0x202F), (0x205F, 0x205F), (0x3000, 0x3000)]

def isBlank (c : Char) : Bool := inRanges blankRanges c

/-- The text without the blanks in front of it. -/
def dropBlanks (cs : List Char) : List Char := cs.dropWhile isBlank

/-- The text without the blanks behind it. -/
def dropBlanksRight (cs : List Char) : List Char := (dropBlanks cs.reverse).reverse

def trimBlanks (cs : List Char) : List Char := dropBlanksRight (dropBlanks cs)

end DataGrid
