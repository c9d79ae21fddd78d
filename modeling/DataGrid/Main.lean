import DataGrid.Program

/-!
# The program

Takes the files and variables that a run can see, runs, and prints the outcome.
-/

namespace DataGrid.Program

/-- Reads a file. -/
def readFile (path : String) : IO (Except FileFault String) := do
  try
    return .ok (← IO.FS.readFile path)
  catch error =>
    return .error <| match error with
      | .noFileOrDirectory .. => .notFound
      | .permissionDenied .. => .permissionDenied
      | .inappropriateType .. => .isDirectory
      | .userError _ => .invalidData
      | _ => .other

/-- Reads files. -/
def readFiles (paths : List String) : IO Files := do
  let entries ← paths.mapM fun path => do
    let text ← readFile path
    return (path, text)
  return ⟨fun path => (entries.lookup path).getD (.error .notFound)⟩

/-- The parts of a text that may be names of variables: its words, and what stands in braces. -/
def words (text : String) : List String :=
  (text.split fun c => !isAlphanumeric c && c ≠ '_' && c ≠ '.').toList.map (·.toString)
    ++ (text.split fun c => !isAlphanumeric c).toList.map (·.toString)
    ++ (text.split fun c => c = '{' || c = '}').toList.map (·.toString)

/-- The variables that options come from, and those that a file of variables names. -/
def readVariables (files : Files) : IO Environment.Variables := do
  let names := logVariable :: CommandLine.variableNames.map (·.2) ++
    match files.read variablesPath with
    | .ok text => words text
    | .error _ => []
  let entries ← names.mapM fun name => do
    let value ← IO.getEnv name
    return (value.map fun value => (name, value)).toList
  return entries.flatten

end DataGrid.Program

open DataGrid in
def main (arguments : List String) : IO UInt32 := do
  let environmentFiles ← Program.readFiles [Program.variablesPath]
  let vars ← Program.readVariables environmentFiles
  let vars' := (Program.environment? environmentFiles vars).getD vars
  let paths := match CommandLine.parse (Environment.get? vars') arguments with
    | .ok invocation => Program.paths invocation
    | .error _ => []
  let files ← Program.readFiles (Program.variablesPath :: paths)
  let ended := Program.run files vars arguments
  for line in Program.diagnostics files vars ended do
    IO.eprintln line
  IO.print ended.value.output
  return ended.value.exitCode.toUInt32
