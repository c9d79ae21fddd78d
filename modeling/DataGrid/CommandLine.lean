import DataGrid.Settings

/-!
# The command line

The arguments are options, and a command with its own arguments; options may stand before the
command and after it. An option's value is checked when the next argument that is known comes, or at
the end, so of two faults the one met first is not always the one that shows. Options that are not
given come from environment variables.

Each level, the one before the command and that of the command, is read and completed on its own,
the inner one first.
-/

namespace DataGrid.CommandLine

inductive Command where
  | compile (request : String)
  | query (request rows : String)
deriving DecidableEq, Repr

structure Invocation where
  command : Command
  options : Settings.Options
deriving DecidableEq, Repr

/-- Why a command line is not run. The last three ask for a text instead. -/
inductive Refusal where
  | invalidValue
  | valueValidation (dialect : String)
  | tooManyValues (value : String)
  | argumentConflict
  | unknownArgument (argument : String)
  | invalidSubcommand (argument : String)
  | missingSubcommand
  | missingRequiredArgument
  | displayHelpOnMissing
  | displayHelp
  | displayVersion
deriving DecidableEq, Repr

namespace Refusal

def name : Refusal → String
  | invalidValue => "InvalidValue"
  | valueValidation _ => "ValueValidation"
  | tooManyValues _ => "TooManyValues"
  | argumentConflict => "ArgumentConflict"
  | unknownArgument _ => "UnknownArgument"
  | invalidSubcommand _ => "InvalidSubcommand"
  | missingSubcommand => "MissingSubcommand"
  | missingRequiredArgument => "MissingRequiredArgument"
  | displayHelpOnMissing => "DisplayHelpOnMissingArgumentOrSubcommand"
  | displayHelp => "DisplayHelp"
  | displayVersion => "DisplayVersion"

/-- The exit code of a run that is refused. -/
def exitCode : Refusal → Nat
  | displayHelp | displayVersion => 0
  | _ => 2

/-- What is wrong, if anything is. -/
def message? : Refusal → Option String
  | invalidValue => some "an option has no value"
  | valueValidation dialect => some (Sql.Dialect.invalidWord dialect)
  | tooManyValues value => some ("unexpected value '" ++ value ++ "' found")
  | argumentConflict => some "an option is used more than once"
  | unknownArgument argument => some ("unexpected argument '" ++ argument ++ "' found")
  | invalidSubcommand argument => some ("unrecognized command '" ++ argument ++ "'")
  | missingSubcommand => some "a command is required"
  | missingRequiredArgument => some "a required argument is not given"
  | displayHelpOnMissing | displayHelp | displayVersion => none

end Refusal

/-- What arguments give values to. -/
inductive Slot where
  | settings
  | dialect
  | table
  | rows
  | request
deriving DecidableEq, Repr

/-- Checks a value: paths are not empty, and dialects are known. -/
def Slot.check (value : String) : Slot → Except Refusal Unit
  | settings | rows | request => if value = "" then .error .invalidValue else .ok ()
  | dialect => if (Sql.Dialect.ofWord? value).isNone then .error (.valueValidation value) else .ok ()
  | table => .ok ()

/-- Before the command, or within one. -/
inductive Place where
  | start
  | compile
  | query
deriving DecidableEq, Repr

/-- What a name of an option stands for. -/
inductive Switch where
  | option (slot : Slot)
  | help
  | version

namespace Place

def long? (place : Place) (name : String) : Option Switch :=
  if name = "config" then some (.option .settings)
  else if name = "dialect" then some (.option .dialect)
  else if name = "table" then some (.option .table)
  else if name = "help" then some .help
  else if name = "rows" ∧ place = query then some (.option .rows)
  else if name = "version" ∧ place = start then some .version
  else none

def short? (place : Place) (letter : Char) : Option Switch :=
  if letter = 'c' then some (.option .settings)
  else if letter = 'd' then some (.option .dialect)
  else if letter = 't' then some (.option .table)
  else if letter = 'h' then some .help
  else if letter = 'r' ∧ place = query then some (.option .rows)
  else if letter = 'V' ∧ place = start then some .version
  else none

end Place

/-- A value that has been taken. -/
structure Given where
  slot : Slot
  value : String
  /-- From an argument, not from the environment. -/
  argument : Bool
deriving DecidableEq, Repr

/-- A level while its arguments are read. -/
structure State where
  given : List Given := []
  /-- What the last argument gave or announced a value for, and the value if it is there. -/
  pending : Option (Slot × Option String) := none
  /-- The next argument is the value of an option, unless it looks like an option. -/
  awaiting : Bool := false
  /-- After `--` no argument is an option or a command. -/
  trailing : Bool := false
  /-- The request has been given. -/
  hasRequest : Bool := false

namespace State

def has (state : State) (slot : Slot) : Bool := state.given.any fun given => given.slot = slot

/-- Takes a value from an argument. -/
def take (state : State) (slot : Slot) (value : String) : Except Refusal State := do
  if state.has slot then
    .error .argumentConflict
  else do
    slot.check value
    return { state with given := state.given ++ [⟨slot, value, true⟩] }

/-- Takes the value that is pending. -/
def settle (state : State) : Except Refusal State :=
  match state.pending with
  | none => .ok state
  | some (_, none) => .error .invalidValue
  | some (slot, some value) => State.take { state with pending := none } slot value

/-- Reads an option or a flag, with the value that is attached to it, if one is. -/
def switch (state : State) (value : Option String) : Switch → Except Refusal State
  | .option slot => do
    let state ← state.settle
    match value with
    | some value => return { ← state.take slot value with awaiting := false }
    | none => return { state with pending := some (slot, none), awaiting := true }
  | .help =>
    match value with
    | some value => .error (.tooManyValues value)
    | none => state.settle >>= fun _ => .error .displayHelp
  | .version =>
    match value with
    | some value => .error (.tooManyValues value)
    | none => state.settle >>= fun _ => .error .displayVersion

/-- Takes the values of options that were not given from the environment. -/
def complete (environment : String → Option String) (state : State) :
    List (Slot × String) → Except Refusal State
  | [] => .ok state
  | (slot, name) :: rest => do
    match environment name, state.has slot with
    | some value, false =>
      slot.check value
      complete environment { state with given := state.given ++ [⟨slot, value, false⟩] } rest
    | _, _ => complete environment state rest

/-- A value, with or without one from the environment. -/
def value? (state : State) (slot : Slot) (fromArgument : Bool) : Option String :=
  (state.given.find? fun given => given.slot = slot && given.argument = fromArgument).map (·.value)

end State

/-- The environment variables of options. -/
def variableNames : List (Slot × String) :=
  [(.settings, "GRIDQUERY_CONFIG"), (.dialect, "GRIDQUERY_DIALECT"), (.table, "GRIDQUERY_TABLE")]

/-- How an argument looks. -/
inductive Shape where
  | separator
  | long (name : String) (value : Option String)
  | short (letter : Char) (rest : List Char)
  | plain

/-- An argument of a hyphen and more is a short option, of two hyphens and more a long one. -/
def shape (argument : String) : Shape :=
  match argument.toList with
  | ['-', '-'] => .separator
  | '-' :: '-' :: rest =>
    match rest.dropWhile (· ≠ '=') with
    | [] => .long (String.ofList rest) none
    | _ :: value => .long (String.ofList (rest.takeWhile (· ≠ '='))) (String.ofList value)
  | '-' :: letter :: rest => .short letter rest
  | _ => .plain

/-- The value attached to a short option; an equals sign before it does not belong to it. -/
def attached : List Char → Option String
  | [] => none
  | '=' :: value => some (String.ofList value)
  | value => some (String.ofList value)

def isCommandName (argument : String) : Bool :=
  argument = "compile" || argument = "query" || argument = "help"

/-- The refusal of an argument that has no place. -/
def misplaced (place : Place) (trailing : Bool) (argument : String) : Refusal :=
  match place with
  | .start =>
    if trailing && isCommandName argument then .unknownArgument argument
    else .invalidSubcommand argument
  | _ => .unknownArgument argument

/-- Reads an argument that is no option. -/
def positional (place : Place) (state : State) (argument : String) : Except Refusal State := do
  if place = .start ∨ state.hasRequest then
    .error (misplaced place state.trailing argument)
  else do
    let state ← state.settle
    return { state with
      pending := some (.request, some argument), awaiting := false, hasRequest := true }

/-- Reads one argument that is no command. -/
def step (place : Place) (state : State) (argument : String) : Except Refusal State :=
  if state.trailing then
    positional place state argument
  else
    match shape argument with
    | .separator => .ok { state with trailing := true }
    | .long name value =>
      match place.long? name with
      | some switch => state.switch value switch
      | none => .error (.unknownArgument ("--" ++ name))
    | .short letter rest =>
      match place.short? letter with
      | some (.option slot) => state.switch (attached rest) (.option slot)
      | some switch => state.switch none switch
      | none => .error (.unknownArgument (String.ofList ['-', letter]))
    | .plain =>
      match state.pending, state.awaiting with
      | some (slot, _), true =>
        .ok { state with pending := some (slot, some argument), awaiting := false }
      | _, _ => positional place state argument

/-- Completes a level after its last argument. -/
def finish (environment : String → Option String) (state : State) : Except Refusal State := do
  State.complete environment (← state.settle) variableNames

/-- Reads the arguments of a command. -/
def readCommand (environment : String → Option String) (place : Place) (arguments : List String) :
    Except Refusal (Command × State) := do
  let state ← finish environment (← arguments.foldlM (step place) {})
  match place, state.value? .request true, state.value? .rows true with
  | .query, some request, some rows => return (.query request rows, state)
  | .compile, some request, _ => return (.compile request, state)
  | _, _, _ => .error .missingRequiredArgument

/-- What `help` shows: a text for the program or for a command. -/
def helpOn : List String → Refusal
  | [] => .displayHelp
  | [command] => if isCommandName command then .displayHelp else .invalidSubcommand command
  | command :: argument :: _ =>
    .invalidSubcommand (if isCommandName command then argument else command)

/-- Reads the arguments up to a command, and those of the command. -/
def readStart (environment : String → Option String) (state : State) :
    List String → Except Refusal (Command × State × State)
  | [] => do
    let state ← finish environment state
    .error (if state.given.isEmpty then .displayHelpOnMissing else .missingSubcommand)
  | argument :: arguments =>
    if !state.trailing && !state.awaiting && isCommandName argument then
      if argument = "help" then
        .error (helpOn arguments)
      else do
        let place := if argument = "query" then Place.query else Place.compile
        let (command, inner) ← readCommand environment place arguments
        return (command, inner, ← finish environment state)
    else do
      readStart environment (← step .start state argument) arguments

/-- The value of an option. Arguments of the command count more than those before it, and these
more than the environment. -/
def optionValue (inner outer : State) (slot : Slot) : Option String :=
  inner.value? slot true <|> outer.value? slot true <|> inner.value? slot false

/-- Reads a command line. -/
def parse (environment : String → Option String) (arguments : List String) :
    Except Refusal Invocation := do
  let (command, inner, outer) ← readStart environment {} arguments
  let value := optionValue inner outer
  return ⟨command, ⟨value .settings, value .dialect >>= Sql.Dialect.ofWord?, value .table⟩⟩

end DataGrid.CommandLine
