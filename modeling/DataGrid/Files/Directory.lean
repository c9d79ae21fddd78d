import DataGrid.Files

/-!
# Directories

The files in a working directory and below it, and where paths lead. A path is followed name by
name, and each name but the last has to lead to a directory. The working directory is taken to stand
in the root directory, of which no more is known than what every system has.
-/

namespace DataGrid

/-- A file or directory by the names that lead to it. -/
abbrev Names := List (List Char)

namespace Names

/-- The texts between the slashes of a path. -/
def ofPath (path : String) : Names :=
  path.toList.foldr (fun c names => if c = '/' then [] :: names else names.modifyHead (c :: ·)) [[]]

/-- The names without those that lead nowhere. -/
def plain (names : Names) : Names := names.filter fun name => name ≠ [] ∧ name ≠ ['.']

end Names

/-- What is in the working directory and below it, `none` for a directory. The directories on the
way to an entry need no entries of their own. -/
structure Directory where
  entries : List (Names × Option String)

namespace Directory

/-- The directory with these entries by their paths. -/
def ofList (entries : List (String × Option String)) : Directory :=
  ⟨entries.map fun entry => ((Names.ofPath entry.1).plain, entry.2)⟩

/-- The root directory: the usual directories, and the null device, which is empty. -/
def root : Directory :=
  ofList [("bin", none), ("dev/null", some ""), ("etc", none), ("home", none), ("proc", none),
    ("tmp", none), ("usr", none), ("var", none)]

/-- What stands under the names, `none` for a directory. -/
def find (directory : Directory) (names : Names) : Except FileFault (Option String) :=
  match directory.entries.lookup names with
  | some content => .ok content
  | none =>
    if directory.entries.any fun entry => names.isPrefixOf entry.1 then .ok none
    else .error .notFound

/-- Where a path has led to. -/
inductive Place where
  | file (text : String)
  /-- A directory, by its names from the working directory on. -/
  | inside (names : Names)
  /-- A directory, by its names from the root directory on. -/
  | outside (names : Names)
deriving DecidableEq, Repr

/-- Follows one name. -/
def step (directory : Directory) (place : Place) (name : List Char) : Except FileFault Place :=
  match place with
  | .file _ => .error .notADirectory
  | .inside names =>
    if name = [] ∨ name = ['.'] then .ok place
    else if name = ['.', '.'] then
      .ok (if names = [] then .outside [] else .inside names.dropLast)
    else do
      let content ← directory.find (names ++ [name])
      return (content.map .file).getD (.inside (names ++ [name]))
  | .outside names =>
    if name = [] ∨ name = ['.'] then .ok place
    else if name = ['.', '.'] then .ok (.outside names.dropLast)
    else do
      let content ← root.find (names ++ [name])
      return (content.map .file).getD (.outside (names ++ [name]))

/-- The bytes that a path may have at most. -/
def maxPathSize : Nat := 4095

/-- Follows a path. -/
def follow (directory : Directory) (path : String) : Except FileFault Place :=
  if path = "" ∨ maxPathSize < path.utf8ByteSize then
    .error .notFound
  else
    let start : Place := if path.front = '/' then .outside [] else .inside []
    (Names.ofPath path).foldlM directory.step start

/-- The file that a path leads to. -/
def read (directory : Directory) (path : String) : Except FileFault String := do
  match ← directory.follow path with
  | .file text => return text
  | .inside _ => throw .isDirectory
  | .outside _ => throw .isDirectory

end Directory

/-- The files that are seen from a working directory. -/
def Files.ofDirectory (directory : Directory) : Files := ⟨directory.read⟩

end DataGrid
