/-!
# Faults in JSON texts

Reading goes from left to right and stops at the first fault. A reader that only skips a value
accepts more than one that decodes it, so at the place where a text breaks off the two may see
different faults.
-/

namespace DataGrid.Json

/-- Why a text cannot be read. -/
inductive Fault where
  /-- The text ends inside a value. -/
  | ended
  /-- The text is no JSON, or holds what no value can stand for. -/
  | malformed
  /-- A value of the wrong kind, or a missing or repeated member. -/
  | mismatch
deriving DecidableEq, Repr

/-- A place where a text breaks off: the fault for a decoding and for a skipping reader. -/
structure Cut where
  decoding : Fault
  skipping : Fault
deriving DecidableEq, Repr

namespace Cut

def ended : Cut := ⟨.ended, .ended⟩

def malformed : Cut := ⟨.malformed, .malformed⟩

end Cut

end DataGrid.Json
