import DataGrid.CommandLine
import DataGrid.Environment
import DataGrid.Service

/-!
# Runs of the program

A run takes its arguments, the environment and the files that it can see, and ends with an exit code
and a text. Requests, rows and settings are read from files; a file of variables in the working
directory adds to the environment. A run is aborted when one of these variables cannot be added.
-/

namespace DataGrid

/-- The end of a run. -/
inductive Outcome where
  | answered (answer : Json)
  | refused (refusal : CommandLine.Refusal)
  | failed (failure : Failure)
  | aborted

namespace Outcome

def exitCode : Outcome → Nat
  | answered _ => 0
  | refused refusal => refusal.exitCode
  | failed _ => 1
  | aborted => 101

/-- The answer as it is printed, or the version of the program where that was asked for. -/
def output : Outcome → String
  | answered answer => answer.indented ++ "\n"
  | refused .displayVersion => "gridquery 0.1.0\n"
  | refused _ => ""
  | failed _ => ""
  | aborted => ""

/-- The report of a refusal or a failure: its message, and that of its cause where there is one. -/
def report? : Outcome → Option String
  | failed failure =>
    let cause : Option String := match failure.cause? with
      | some (.file fault) => some fault.name
      | some (.column error) => some error.message
      | some (.request error) => some (error.message?.getD error.code)
      | some (.rows error) => error.message?
      | some (.json _) => none
      | none => none
    some ("Error: " ++ failure.message ++ ((cause.map (": " ++ ·)).getD ""))
  | refused refusal => refusal.message?.map ("error: " ++ ·)
  | _ => none

end Outcome

namespace Program

/-- The file of variables in the working directory. -/
def variablesPath : String := ".env"

/-- The environment of a run; `none` when a variable of the file cannot be added. -/
def environment? (files : Files) (vars : Environment.Variables) : Option Environment.Variables :=
  match files.read variablesPath with
  | .ok text => Environment.load? vars text
  | .error _ => some vars

/-- The files that an invocation may look at. -/
def paths (invocation : CommandLine.Invocation) : List String :=
  Settings.localPath :: invocation.options.path.toList ++
    match invocation.command with
    | .compile request => [request]
    | .query request rows => [request, rows]

/-- Runs a command. -/
def runCommand (files : Files) (settings : Settings) :
    CommandLine.Command → Logged (Except Failure Json)
  | .compile request =>
    match files.read request with
    | .error fault => pure (.error (.requestUnreadable request fault))
    | .ok text => settings.compile text
  | .query request rows =>
    match files.read request, files.read rows with
    | .error fault, _ => pure (.error (.requestUnreadable request fault))
    | _, .error fault => pure (.error (.rowsUnreadable rows fault))
    | .ok text, .ok rowsText => settings.query text rowsText

/-- Runs an invocation. -/
def runInvocation (files : Files) (invocation : CommandLine.Invocation) :
    Logged (Except Failure Json) := do
  match ← Settings.load files invocation.options with
  | .error failure => return .error failure
  | .ok settings => runCommand files settings invocation.command

/-- A whole run. -/
def run (files : Files) (vars : Environment.Variables) (arguments : List String) :
    Logged Outcome := do
  match environment? files vars with
  | none => return .aborted
  | some vars =>
    match CommandLine.parse (Environment.get? vars) arguments with
    | .error refusal => return .refused refusal
    | .ok invocation =>
      match ← runInvocation files invocation with
      | .error failure => return .failed failure
      | .ok answer => return .answered answer

/-- The variable that says which events are shown. -/
def logVariable : String := "GRIDQUERY_LOG"

/-- The highest rank of events that are shown. -/
def shownRank (vars : Environment.Variables) : Nat :=
  match Environment.get? vars logVariable with
  | none => Level.info.rank
  | some word => (Level.limit? word).getD Level.error.rank

/-- What a run prints about itself: the events that are shown, and the report. -/
def diagnostics (files : Files) (vars : Environment.Variables) (ended : Logged Outcome) :
    List String :=
  let limit := shownRank ((environment? files vars).getD vars)
  (ended.events.filter (·.level.rank ≤ limit)).map (·.line) ++ ended.value.report?.toList

end Program

end DataGrid
