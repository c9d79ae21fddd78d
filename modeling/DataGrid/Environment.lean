import DataGrid.Alphanumeric
import DataGrid.Blank

/-!
# Environment files

A file of lines `NAME=value` adds variables to the environment; those that are there already stay.
Values may be quoted and then go over several lines, and a dollar sign puts in the value of another
variable. The file counts up to its first faulty line. No variable can hold a NUL character.
-/

namespace DataGrid.Environment

/-- Names with values; the first entry of a name counts. -/
abbrev Variables := List (String × String)

/-- A variable as it stands in the environment. -/
def entryLine (entry : String × String) : List Char := entry.1.toList ++ '=' :: entry.2.toList

/-- The value of a name: what follows it and an equals sign in a line of the environment. So a name
can reach over the first equals sign into the value. -/
def get? (vars : Variables) (name : String) : Option String :=
  if name = "" then none
  else vars.findSome? fun entry =>
    String.ofList <$> (name.toList ++ ['=']).isPrefixOf? (entryLine entry)

/-! ### Lines -/

/-- Where a line stands when its end is looked for. -/
inductive Scan where
  | plain
  /-- After a blank, where `#` starts a comment. -/
  | blank
  | escape
  /-- Between double quotes. -/
  | weak
  | weakEscape
  /-- Between single quotes. -/
  | strong
  | strongEscape
deriving DecidableEq, Repr

/-- After an unquoted character. -/
def Scan.start (c : Char) : Scan :=
  if c = '\\' then escape else if c = '\"' then weak else if c = '\'' then strong else plain

def Scan.step (c : Char) : Scan → Scan
  | plain => if isBlank c && c ≠ '\n' && c ≠ '\r' then blank else start c
  | blank => start c
  | escape => plain
  | weak => if c = '\\' then weakEscape else if c = '\"' then plain else weak
  | weakEscape => weak
  | strong => if c = '\\' then strongEscape else if c = '\'' then plain else strong
  | strongEscape => strong

/-- What stands at the start of a text. -/
inductive Line where
  | ended (line rest : List Char)
  /-- The text ends where a line does not. -/
  | unfinished
deriving DecidableEq, Repr

def Line.push (c : Char) : Line → Line
  | ended line rest => ended (c :: line) rest
  | unfinished => unfinished

/-- The text after the end of its first line. -/
def afterNewline (cs : List Char) : List Char := (cs.dropWhile (· ≠ '\n')).drop 1

/-- Cuts a line off. It ends at a line feed outside of quotes, and at a comment. -/
def cutLine (scan : Scan) : List Char → Line
  | [] => if scan = .plain then .ended [] [] else .unfinished
  | c :: rest =>
    if scan = .blank ∧ c = '#' then
      .ended [] (afterNewline rest)
    else if c = '\n' ∧ scan.step c = .plain then
      .ended [] rest
    else
      (cutLine (scan.step c) rest).push c

/-- The lines of a text, up to one without an end. A line that starts with a comment is left out;
`fuel` bounds their number. -/
def lines (fuel : Nat) (cs : List Char) : List (List Char) :=
  match fuel, cs with
  | 0, _ => []
  | _, [] => []
  | fuel + 1, cs =>
    if (dropBlanks (cs.takeWhile (· ≠ '\n'))).head? = some '#' then
      lines fuel (afterNewline cs)
    else
      match cutLine .plain cs with
      | .unfinished => []
      | .ended line rest => line :: lines fuel rest

/-! ### Values -/

/-- Where a value stands while it is read. -/
inductive Mode where
  | plain
  /-- After the end of the value, where only a comment may follow. -/
  | ended
  | escape
  | weak
  | weakEscape
  | strong
  /-- In a name after a dollar sign. -/
  | name (weak : Bool) (name : List Char)
  /-- In a name in braces after a dollar sign. -/
  | braced (weak : Bool) (name : List Char)
deriving DecidableEq, Repr

def escaped? (c : Char) : Option Char :=
  if c = 'n' then some '\n'
  else if c = '\\' ∨ c = '\'' ∨ c = '\"' ∨ c = '$' ∨ c = ' ' then some c
  else none

/-- The mode after a part of a value, between double quotes or not. -/
def Mode.within (weak : Bool) : Mode := if weak then .weak else .plain

/-- The value of a variable, empty if there is none. -/
def value (vars : Variables) (name : List Char) : List Char :=
  ((get? vars (String.ofList name)).getD "").toList

/-- Reads a value to its end. -/
def readValue (vars : Variables) (mode : Mode) : List Char → Option (List Char)
  | [] =>
    match mode with
    | .plain | .ended | .escape => some []
    | .name false name => some (value vars name)
    | _ => none
  | c :: rest =>
    match mode with
    | .ended =>
      if c = ' ' ∨ c = '\t' then readValue vars .ended rest
      else if c = '#' then some []
      else none
    | .escape => do
      return (← escaped? c) :: (← readValue vars .plain rest)
    | .weakEscape => do
      return (← escaped? c) :: (← readValue vars .weak rest)
    | .strong =>
      if c = '\'' then readValue vars .plain rest
      else (c :: ·) <$> readValue vars .strong rest
    | .name weak name =>
      if isAlphanumeric c then readValue vars (.name weak (name ++ [c])) rest
      else if c = '{' ∧ name = [] then readValue vars (.braced weak []) rest
      else if c = '$' then
        (value vars name ++ ·) <$> readValue vars (.name weak []) rest
      else
        (value vars name ++ c :: ·) <$> readValue vars (.within weak) rest
    | .braced weak name =>
      if c = '}' then
        (value vars name ++ ·) <$> readValue vars (.within weak) rest
      else
        readValue vars (.braced weak (name ++ [c])) rest
    | .weak =>
      if c = '$' then readValue vars (.name true []) rest
      else if c = '\"' then readValue vars .plain rest
      else if c = '\\' then readValue vars .weakEscape rest
      else (c :: ·) <$> readValue vars .weak rest
    | .plain =>
      if c = '$' then readValue vars (.name false []) rest
      else if c = '\'' then readValue vars .strong rest
      else if c = '\"' then readValue vars .weak rest
      else if c = '\\' then readValue vars .escape rest
      else if c = ' ' ∨ c = '\t' then readValue vars .ended rest
      else (c :: ·) <$> readValue vars .plain rest

/-! ### Entries -/

def isNameStart (c : Char) : Bool := c.isAlpha || c = '_'

def isNameRest (c : Char) : Bool := c.isAlphanum || c = '_' || c = '.'

/-- Reads a name and drops the blanks behind it. -/
def readName? : List Char → Option (List Char × List Char)
  | [] => none
  | c :: rest =>
    if isNameStart c then
      some (c :: rest.takeWhile isNameRest, dropBlanks (rest.dropWhile isNameRest))
    else
      none

/-- Reads a name up to the equals sign. The word `export` may stand before it. -/
def readTarget? (line : List Char) : Option (List Char × List Char) := do
  let (name, rest) ← readName? line
  match rest with
  | '=' :: rest => return (name, dropBlanks rest)
  | rest =>
    guard (name = "export".toList)
    match ← readName? rest with
    | (name, '=' :: rest) => return (name, dropBlanks rest)
    | _ => none

/-- Reads a line: nothing in an empty one, else a variable; `none` when it is faulty. -/
def readLine? (vars : Variables) (line : List Char) : Option (Option (String × String)) :=
  let line := dropBlanks (dropBlanksRight line)
  if line.head?.all (· = '#') then
    some none
  else do
    let (name, rest) ← readTarget? line
    let value ← if rest.head?.all (· = '#') then some [] else readValue vars .plain rest
    return some (String.ofList name, String.ofList value)

/-- Adds a variable unless it is there already; `none` when it cannot hold the value. -/
def add? (vars : Variables) (name value : String) : Option Variables :=
  if (get? vars name).isSome then some vars
  else if '\x00' ∈ value.toList then none
  else some (vars ++ [(name, value)])

/-- Adds the variables of lines; `none` when one of them cannot be added. -/
def addLines? (vars : Variables) : List (List Char) → Option Variables
  | [] => some vars
  | line :: rest =>
    match readLine? vars line with
    | none => some vars
    | some none => addLines? vars rest
    | some (some (name, value)) => do addLines? (← add? vars name value) rest

/-- Adds the variables of a file; `none` when one of them cannot be added. -/
def load? (vars : Variables) (text : String) : Option Variables :=
  let cs := match text.toList with
    | '\ufeff' :: rest => rest
    | cs => cs
  addLines? vars (lines cs.length cs)

end DataGrid.Environment
