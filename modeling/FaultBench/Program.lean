import FaultBench.Digest.Sha256
import FaultBench.Kind

/-!
# Programs
-/

namespace FaultBench

/-- A program that was written for a kind and a variant. -/
structure Program where
  kind : KindId
  faultClass : FaultClass
  variant : Variant
  fileName : String
  source : String
  /-- The digest of the source, in hexadecimal. -/
  digest : String
  deriving DecidableEq

namespace Program

/-- The program with the given source, in a file named for its kind. -/
def ofSource (kind : KindId) (c : FaultClass) (variant : Variant) (source : String) : Program where
  kind := kind
  faultClass := c
  variant := variant
  fileName := kind.text ++ ".c"
  source := source
  digest := Digest.Sha256.ofString source

/-- The first twelve characters of the digest. -/
def shortDigest (p : Program) : String := String.ofList (p.digest.toList.take 12)

end Program

end FaultBench
