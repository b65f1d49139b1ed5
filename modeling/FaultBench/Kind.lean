import FaultBench.Kind.Class
import FaultBench.Kind.Signature

/-!
# Kinds of faults

A kind is a class of faults under an id, with the signature that its programs are expected to
bring about and the variant that they have by default.
-/

namespace FaultBench

structure Kind where
  id : KindId
  faultClass : FaultClass
  constructs : List Construct
  signature : Signature
  variant : Variant
  deriving DecidableEq

namespace Kind

/-- A kind that takes its constructs and its variant from its class. -/
def ofClass (id : KindId) (c : FaultClass) (signature : Signature) : Kind where
  id := id
  faultClass := c
  constructs := c.constructs
  signature := signature
  variant := c.defaultVariant

/-- The built-in kind of a class. -/
def builtin (c : FaultClass) : Kind := ofClass c.canonicalId c ⟨c.defaultPattern, .substring⟩

/-- The built-in kinds of all classes. -/
def builtins : List Kind := FaultClass.all.map builtin

end Kind

end FaultBench
