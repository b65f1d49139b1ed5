import FaultBench.IoError
import FaultBench.Kind

/-!
# Errors of the set-up

What keeps a run from starting: a mistake in a request, in a kind or in the configuration. Its
author can mend it.
-/

namespace FaultBench

/-- Why no program can be written for a variant. -/
inductive VariantFlaw
  | tooDeep (most callDepth : Nat)
  /-- The value of a parameter is not between one and `most`. -/
  | outOfRange (parameter : String) (most value : Int)
  deriving DecidableEq, Repr

def VariantFlaw.message : VariantFlaw → String
  | .tooDeep most depth => s!"call_depth must be at most {most}, got {depth}"
  | .outOfRange parameter most value => s!"{parameter} must be in 1..={most}, got {value}"

/-- What a configuration must not ask for. -/
inductive ConfigFlaw
  | emptyCompiler
  | zeroTimeout
  | zeroCompileTimeout
  | zeroOutput
  | zeroParallelism
  | noKinds
  /-- An entry gives a built-in kind another class. -/
  | otherClass (id : KindId) (builtin given : FaultClass)
  | needsClass (id : KindId)
  deriving DecidableEq

def ConfigFlaw.message : ConfigFlaw → String
  | .emptyCompiler => "toolchain.compiler is empty"
  | .zeroTimeout => "toolchain.timeout_secs must be > 0"
  | .zeroCompileTimeout => "toolchain.compile_timeout_secs must be > 0"
  | .zeroOutput => "toolchain.max_output_bytes must be > 0"
  | .zeroParallelism => "pipeline.parallelism must be > 0"
  | .noKinds => "builtin_kinds = false requires at least one [[kinds]] entry"
  | .otherClass id builtin given =>
    s!"kind {id} is built in as {builtin}, cannot redeclare as {given}"
  | .needsClass id => s!"kind {id} needs a class"

inductive SetupError
  | duplicateKind (id : KindId)
  | unknownKind (id : KindId)
  | unsupportedVariant (id : KindId) (flaw : VariantFlaw)
  | invalidSignature (id : KindId) (flaw : SignatureFlaw)
  | invalidKindId (text : String) (flaw : KindIdFlaw)
  | config (flaw : ConfigFlaw)
  /-- A configuration is not written as one. -/
  | malformedConfig
  /-- A text in an exchange format does not have the expected shape. -/
  | malformedData
  | io (error : IoError)
  deriving DecidableEq

namespace SetupError

/-- The wording of what is wrong with a malformed configuration is not fixed. -/
def malformedConfigDetail : String := "<toml error>"

def message : SetupError → String
  | .duplicateKind id => s!"fault kind already registered: {id}"
  | .unknownKind id => s!"unknown fault kind: {id}"
  | .unsupportedVariant id flaw => s!"unsupported variant for {id}: {flaw.message}"
  | .invalidSignature id flaw => s!"invalid expected signature for {id}: {flaw.message}"
  | .invalidKindId text flaw => s!"invalid fault kind id {Text.quote text}: {flaw.message}"
  | .config flaw => s!"invalid configuration: {flaw.message}"
  | .malformedConfig => s!"config parse error: {malformedConfigDetail}"
  | .malformedData => "serialization error"
  | .io error => s!"io error: {error.message}"

/-- The id that a text given in a request is. -/
def kindId (text : String) : Except SetupError KindId :=
  (KindId.ofString text).mapError (.invalidKindId text)

end SetupError

end FaultBench
