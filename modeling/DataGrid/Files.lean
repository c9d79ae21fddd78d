/-!
# Files

The files that a run can see, as they are when it starts.
-/

namespace DataGrid

/-- Why a file cannot be read. -/
inductive FileFault where
  | notFound
  | isDirectory
  | notADirectory
  | permissionDenied
  /-- The file holds no text in UTF-8. -/
  | invalidData
  | other
deriving DecidableEq, Repr

def FileFault.name : FileFault → String
  | notFound => "NotFound"
  | isDirectory => "IsADirectory"
  | notADirectory => "NotADirectory"
  | permissionDenied => "PermissionDenied"
  | invalidData => "InvalidData"
  | other => "Other"

/-- Texts of files by their paths. -/
structure Files where
  read : String → Except FileFault String

namespace Files

/-- Whether there is something at a path. -/
def has (files : Files) (path : String) : Bool :=
  match files.read path with
  | .error .notFound => false
  | .error .notADirectory => false
  | _ => true

end Files

end DataGrid
