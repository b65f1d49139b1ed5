import FaultBench.Kind.Id

/-!
# Variants

The parameters of a program, and partial sets of parameters that are laid over them.
-/

namespace FaultBench

/-- What a program does with the pointer that faults. -/
inductive Access
  | read
  | write
  deriving DecidableEq, Repr

def Access.name : Access → String
  | .read => "read"
  | .write => "write"

/-- The parameters of a program. Each class of faults uses some of them. -/
structure Variant where
  /-- The size of an allocation in bytes. -/
  allocSize : Int := 100
  /-- The length of an array on the stack. -/
  bufferSize : Int := 12
  /-- By how many bytes the source of a copy exceeds its destination. -/
  overflowBy : Int := 31
  /-- How many function calls lie between `main` and the fault. -/
  callDepth : Nat := 0
  /-- How many blocks leak. -/
  leakCount : Nat := 2
  access : Access := .write
  /-- The program never gets to its fault. -/
  spinForever : Bool := false
  deriving DecidableEq, Repr

/-- Parameters of which some are left as they are. -/
structure VariantPatch where
  allocSize : Option Int := none
  bufferSize : Option Int := none
  overflowBy : Option Int := none
  callDepth : Option Nat := none
  leakCount : Option Nat := none
  access : Option Access := none
  spinForever : Option Bool := none
  deriving DecidableEq, Repr

namespace VariantPatch

/-- Nothing is set. -/
def isEmpty (p : VariantPatch) : Bool := p == {}

/-- `base` with what the patch sets. -/
def apply (p : VariantPatch) (base : Variant) : Variant where
  allocSize := p.allocSize.getD base.allocSize
  bufferSize := p.bufferSize.getD base.bufferSize
  overflowBy := p.overflowBy.getD base.overflowBy
  callDepth := p.callDepth.getD base.callDepth
  leakCount := p.leakCount.getD base.leakCount
  access := p.access.getD base.access
  spinForever := p.spinForever.getD base.spinForever

@[simp] theorem apply_empty (v : Variant) : apply {} v = v := rfl

end VariantPatch

end FaultBench
