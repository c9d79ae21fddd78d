/-!
# Computations with a limited stack

How often calls are nested in a computation is seen by giving it a limit: it ends with a result when the
limit is large enough, and without one otherwise.
-/

namespace DataGrid

/-- A computation on a stack with room for so many nested calls; it has no result when it needs more. -/
abbrev Stacked (α : Type) := ReaderT Nat Option α

namespace Stacked

variable {α β : Type}

/-- A call takes a place of the stack until it returns. -/
def call (x : Stacked α) : Stacked α := fun room =>
  match room with
  | 0 => none
  | room + 1 => x room

/-- The computation has this result whenever there is room for so many nested calls. -/
def Ends (x : Stacked α) (calls : Nat) (a : α) : Prop := ∀ room, calls ≤ room → x.run room = some a

variable {x : Stacked α} {calls : Nat} {a : α} {b : β}

theorem ends_pure (calls : Nat) (a : α) : (pure a : Stacked α).Ends calls a := fun _ _ => rfl

theorem Ends.bind {next : α → Stacked β} (hx : x.Ends calls a) (hnext : (next a).Ends calls b) :
    (x >>= next).Ends calls b := by
  intro room hroom
  rw [ReaderT.run_bind, hx room hroom]
  exact hnext room hroom

theorem Ends.call (h : x.Ends calls a) : (call x).Ends (calls + 1) a := by
  intro room hroom
  cases room with
  | zero => omega
  | succ room => exact h room (by omega)

theorem Ends.mono {calls' : Nat} (h : x.Ends calls a) (hle : calls ≤ calls') : x.Ends calls' a :=
  fun room hroom => h room (Nat.le_trans hle hroom)

end Stacked

end DataGrid
