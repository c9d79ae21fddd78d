import DataGrid.Filter.Error
import DataGrid.Page
import DataGrid.Request
import DataGrid.Unprintable

/-!
# The log

What happens on the way to an answer: what was left out and why, and what was made. Events are data
here; their level, message and fields are what a log shows of them. A log shows the events up to a
level.
-/

namespace DataGrid

inductive Event where
  | columnFailed (column : String) (node : Filter.Node) (error : Filter.Error)
  /-- A group has no join that is known. -/
  | groupSkipped (column : String)
  | predicateCreated (columns applied : Nat)
  | sortCreated (keys : List Sort.Key)
  | pageCreated (page : Page) (start stop : Option Int64)
  | pageRejected (error : PageError)
  | sortKeySkipped (column : String) (error : Option ColumnError)
  | queryRendered (dialect sql : String) (parameters : Nat)
  | queryExecuted (total matched returned : Nat)
  | groupingIgnored
  | requestRejected (error : RequestError)
  | settingsLoading
  | settingsFileLoading (path : String)
  | settingsUnknown (names : List String)
  | settingsFilesLoaded (paths : List String)
  | settingsLoaded (dialect table : String) (restricted : Bool)

inductive Level where
  | error
  | warn
  | info
  | debug
deriving DecidableEq, Repr

namespace Level

def name : Level → String
  | error => "ERROR"
  | warn => "WARN"
  | info => "INFO"
  | debug => "DEBUG"

/-- Levels with higher ranks are shown less often. -/
def rank : Level → Nat
  | error => 1
  | warn => 2
  | info => 3
  | debug => 4

/-- The highest rank that a log shows, by its name or number. -/
def limit? (word : String) : Option Nat :=
  let small := String.ofList (word.toList.map Char.toLower)
  if small = "off" ∨ small = "0" then some 0
  else if small = "error" ∨ small = "1" then some 1
  else if small = "warn" ∨ small = "2" then some 2
  else if small = "info" ∨ small = "3" then some 3
  else if small = "debug" ∨ small = "4" then some 4
  else if small = "trace" ∨ small = "5" then some 5
  else none

end Level

namespace Event

def level : Event → Level
  | columnFailed .. => .error
  | groupSkipped _ => .debug
  | predicateCreated .. => .info
  | sortCreated _ => .debug
  | pageCreated .. => .info
  | pageRejected _ => .error
  | sortKeySkipped .. => .warn
  | queryRendered .. => .debug
  | queryExecuted .. => .debug
  | groupingIgnored => .debug
  | requestRejected _ => .warn
  | settingsLoading => .debug
  | settingsFileLoading _ => .debug
  | settingsUnknown _ => .warn
  | settingsFilesLoaded _ => .debug
  | settingsLoaded .. => .debug

def message : Event → String
  | columnFailed .. => "Error creating predicate for column"
  | groupSkipped _ => "Composite filter without a usable operator, skipping"
  | predicateCreated .. => "Created predicate from filter model"
  | sortCreated _ => "Created sort from sort model"
  | pageCreated .. => "Created page request"
  | pageRejected _ => "Invalid row range, not paginating"
  | sortKeySkipped .. => "Skipping sort key"
  | queryRendered .. => "Rendered grid query"
  | queryExecuted .. => "Executed grid query in memory"
  | groupingIgnored => "Ignoring grouping/pivot settings in grid request"
  | requestRejected _ => "Rejected grid request"
  | settingsLoading => "Loading application configuration"
  | settingsFileLoading _ => "Loading config file"
  | settingsUnknown _ => "Unknown fields in config file (possible typos)"
  | settingsFilesLoaded _ => "Config files loaded"
  | settingsLoaded .. => "Configuration loaded"

/-- A character between quotes; unprintable ones are given by their numbers. -/
def quotedChar (c : Char) : List Char :=
  if c = '\"' then ['\\', '\"']
  else if c = '\\' then ['\\', '\\']
  else if c = '\x00' then ['\\', '0']
  else if c = '\t' then ['\\', 't']
  else if c = '\n' then ['\\', 'n']
  else if c = '\r' then ['\\', 'r']
  else if isUnprintable c then ['\\', 'u', '{'] ++ Nat.toDigits 16 c.toNat ++ ['}']
  else [c]

/-- A text between quotes. -/
def quoted (text : String) : String :=
  String.ofList ('\"' :: (text.toList.flatMap quotedChar ++ ['\"']))

/-- Texts between quotes, as a list in brackets. -/
def quotedList (texts : List String) : String :=
  "[" ++ ", ".intercalate (texts.map quoted) ++ "]"

/-- The field of a value that may be missing. -/
def fieldOf (name : String) (value : Option String) : List (String × String) :=
  (value.map fun value => (name, value)).toList

def fields : Event → List (String × String)
  | columnFailed column _ error => [("column", column), ("error", error.message)]
  | groupSkipped column => [("column", column)]
  | predicateCreated columns applied =>
    [("columns", toString columns), ("applied", toString applied)]
  | sortCreated keys => [("sort", Sort.display keys)]
  | pageCreated page start stop =>
    [("page_index", toString page.index.toNat), ("page_size", toString page.size.toNat)]
      ++ fieldOf "start_row" (start.map (toString ·.toInt))
      ++ fieldOf "end_row" (stop.map (toString ·.toInt))
      ++ [("sort", Sort.display page.sort)]
  | pageRejected error => [("error", error.message)]
  | sortKeySkipped column error =>
    ("column", column) :: fieldOf "error" (error.map ColumnError.message)
  | queryRendered dialect sql parameters =>
    [("dialect", dialect), ("sql", sql), ("params", toString parameters)]
  | queryExecuted total matched returned =>
    [("total", toString total), ("matched", toString matched), ("returned", toString returned)]
  | groupingIgnored => []
  | requestRejected error => ("code", error.code) :: fieldOf "error" error.message?
  | settingsLoading => []
  | settingsFileLoading path => [("path", path)]
  | settingsUnknown names => [("fields", ", ".intercalate names)]
  | settingsFilesLoaded paths => [("configs", quotedList paths)]
  | settingsLoaded dialect table restricted =>
    [("dialect", dialect), ("table", table),
      ("restricted", if restricted then "true" else "false")]

/-- Whether a field stands between quotes in a line; the others stand there as they are. -/
def isQuoted : Event → String → Bool
  | columnFailed .., name => name = "column"
  | groupSkipped _, name => name = "column"
  | _, _ => false

/-- An event in a log. -/
def line (event : Event) : String :=
  let shown (field : String × String) : String :=
    " " ++ field.1 ++ "=" ++ if event.isQuoted field.1 then quoted field.2 else field.2
  event.level.name ++ " " ++ event.message ++ String.join (event.fields.map shown)

end Event

/-- A result with the events on the way to it. -/
structure Logged (α : Type) where
  value : α
  events : List Event

namespace Logged

instance : Monad Logged where
  pure value := ⟨value, []⟩
  bind x next := ⟨(next x.value).value, x.events ++ (next x.value).events⟩

variable {α β : Type}

@[simp] theorem value_pure (value : α) : (pure value : Logged α).value = value := rfl

@[simp] theorem value_bind (x : Logged α) (next : α → Logged β) :
    (x >>= next).value = (next x.value).value := rfl

@[simp] theorem events_bind (x : Logged α) (next : α → Logged β) :
    (x >>= next).events = x.events ++ (next x.value).events := rfl

end Logged

def log (event : Event) : Logged Unit := ⟨(), [event]⟩

end DataGrid
