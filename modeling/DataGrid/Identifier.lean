/-!
# Plain identifiers

A name that may stand in SQL: an ASCII letter or an underscore, then ASCII letters, digits and
underscores. Such a name holds no quote, so it can be quoted by putting it between quotes.
-/

namespace DataGrid

namespace Identifier

def isStart (c : Char) : Bool := c.isAlpha || c = '_'

def isRest (c : Char) : Bool := c.isAlphanum || c = '_'

def isPlainChars : List Char → Bool
  | [] => false
  | c :: rest => isStart c && rest.all isRest

def isPlain (name : String) : Bool := isPlainChars name.toList

theorem ne_quote_of_isPlainChars {name : List Char} (h : isPlainChars name) :
    '\"' ∉ name := by
  cases name with
  | nil => simp
  | cons c rest =>
    simp only [isPlainChars, Bool.and_eq_true, List.all_eq_true] at h
    intro hq
    rcases List.mem_cons.1 hq with rfl | hq
    · exact absurd h.1 (by decide)
    · exact absurd (h.2 _ hq) (by decide)

end Identifier

/-- A plain identifier. -/
structure Identifier where
  name : String
  plain : Identifier.isPlain name
deriving DecidableEq

def Identifier.ofString? (name : String) : Option Identifier :=
  if h : isPlain name then some ⟨name, h⟩ else none

end DataGrid
