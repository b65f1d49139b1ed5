/-!
# Cancellation

A flag is set once and stays set. Handles share flags: what one of them sets, all others of the same
flag see, also when the one that set it is gone.
-/

namespace FaultBench

/-- Flags by their number, and the flag of each handle that is in use. -/
structure CancelState where
  flags : List Bool
  handles : List (Option Nat)
  deriving DecidableEq, Repr

namespace CancelState

def empty : CancelState := ⟨[], []⟩

/-- A handle of a new flag. -/
def create (s : CancelState) : CancelState :=
  ⟨s.flags ++ [false], s.handles ++ [some s.flags.length]⟩

/-- The flag of a handle that is in use. -/
def flag? (s : CancelState) (handle : Nat) : Option Nat := s.handles[handle]?.join

/-- Another handle of the same flag. -/
def clone? (s : CancelState) (handle : Nat) : Option CancelState :=
  (s.flag? handle).map fun f => { s with handles := s.handles ++ [some f] }

/-- Sets the flag of a handle. -/
def cancel? (s : CancelState) (handle : Nat) : Option CancelState :=
  (s.flag? handle).map fun f => { s with flags := s.flags.set f true }

/-- Gives a handle up. -/
def drop? (s : CancelState) (handle : Nat) : Option CancelState :=
  (s.flag? handle).map fun _ => { s with handles := s.handles.set handle none }

/-- The flag of a handle is set. -/
def isCancelled? (s : CancelState) (handle : Nat) : Option Bool :=
  (s.flag? handle).map fun f => s.flags.getD f false

end CancelState

end FaultBench
