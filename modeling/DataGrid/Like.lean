/-!
# LIKE patterns

In a pattern `%` stands for any text, `_` for any one character, and `\` makes the next character
stand for itself; a lone `\` at the end stands for itself. The whole text has to match, and case
counts. `escape` turns a text into the pattern that matches just that text.

A match is decided without backtracking: after each token of the pattern we keep the rests of the
text that the tokens so far can leave, longest first.
-/

namespace DataGrid.Like

/-- One unit of a pattern. -/
inductive Token where
  | char (c : Char)
  | anyOne
  | anyMany
deriving DecidableEq, Repr

def tokens : List Char → List Token
  | [] => []
  | ['\\'] => [.char '\\']
  | '\\' :: c :: rest => .char c :: tokens rest
  | c :: rest =>
    (if c = '%' then .anyMany else if c = '_' then .anyOne else .char c) :: tokens rest

/-- The text and all its shorter rests, down to the empty one. -/
def rests : List Char → List (List Char)
  | [] => [[]]
  | c :: cs => (c :: cs) :: rests cs

/-- The rests that one more token can leave. Each rest is the end of the one before it, so those
of `%` are the rests of the first. -/
def advance : Token → List (List Char) → List (List Char)
  | .anyMany, [] => []
  | .anyMany, longest :: _ => rests longest
  | .anyOne, left => left.filterMap List.tail?
  | .char c, left => left.filterMap fun
    | [] => none
    | d :: ds => if d = c then some ds else none

def matchesTokens (pattern : List Token) (text : List Char) : Bool :=
  (pattern.foldl (fun left token => advance token left) [text]).contains []

/-- Whether the whole text matches the pattern. -/
def matchesText (pattern text : String) : Bool :=
  matchesTokens (tokens pattern.toList) text.toList

/-- The text with `new` in place of each `c`. What is put in is not looked at again. -/
def replace (c : Char) (new text : List Char) : List Char :=
  text.flatMap fun d => if d = c then new else [d]

/-- The pattern of a text, in which each special character stands for itself. Backslashes come first,
since the other two replacements put in more of them. -/
def escape (text : String) : String :=
  String.ofList
    (replace '_' ['\\', '_'] (replace '%' ['\\', '%'] (replace '\\' ['\\', '\\'] text.toList)))

end DataGrid.Like
