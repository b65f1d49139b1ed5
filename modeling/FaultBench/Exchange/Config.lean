import FaultBench.Config
import FaultBench.Data.Toml.Reader
import FaultBench.Exchange.Kind
import FaultBench.File.Tree
import FaultBench.Text.Utf8

/-!
# The exchanged form of configurations

A configuration is written as TOML, in a file of its own.
-/

namespace FaultBench

namespace KindEntry

def decoder : Decoder KindEntry := fun d x => do
  let s ← Slots.of d true ["id", "class", "signature", "match_mode", "variant"] x
  return {
    id := ← s.required "id" Decoder.text
    faultClass := ← s.orDefault "class" none FaultClass.decoder.option
    signature := ← s.orDefault "signature" none Decoder.text.option
    matchMode := ← s.orDefault "match_mode" none MatchMode.decoder.option
    variant := ← s.orDefault "variant" {} VariantPatch.decoder }

def toDatum (e : KindEntry) : Datum :=
  .fields [
    ("id", .text e.id),
    ("class", .ofOption FaultClass.toDatum e.faultClass),
    ("signature", .ofOption .text e.signature),
    ("match_mode", .ofOption MatchMode.toDatum e.matchMode),
    ("variant", e.variant.toDatum)]

end KindEntry

/-- The name under which a moment stands where a record is expected. -/
def momentName : String := "$__toml_private_datetime"

def Environment.decoder : Decoder Environment := fun d x =>
  match x with
  | .fields kvs =>
    (kvs.mapM fun kv => (Decoder.text d kv.2).map (kv.1, ·)).map Environment.ofPairs
  | .moment s => some [(momentName, s)]
  | _ => none

def Environment.toDatum (env : Environment) : Datum :=
  .fields (env.map fun kv => (kv.1, .text kv.2))

namespace ToolSection

def decoder : Decoder ToolSection := fun d x => do
  let s ← Slots.of d true ["compiler", "flags", "env", "run_wrapper", "timeout_secs",
    "compile_timeout_secs", "max_output_bytes", "cpu_limit_secs"] x
  let t : ToolSection := {}
  return {
    compiler := ← s.orDefault "compiler" t.compiler Decoder.text
    flags := ← s.orDefault "flags" t.flags Decoder.text.list
    env := ← s.orDefault "env" t.env Environment.decoder
    runWrapper := ← s.orDefault "run_wrapper" t.runWrapper Decoder.text.list
    timeoutSecs := ← s.orDefault "timeout_secs" t.timeoutSecs Decoder.nat64
    compileTimeoutSecs := ← s.orDefault "compile_timeout_secs" t.compileTimeoutSecs Decoder.nat64
    maxOutputBytes := ← s.orDefault "max_output_bytes" t.maxOutputBytes Decoder.nat64
    cpuLimitSecs := ← s.orDefault "cpu_limit_secs" t.cpuLimitSecs Decoder.nat64.option }

def toDatum (t : ToolSection) : Datum :=
  .fields [
    ("compiler", .text t.compiler),
    ("flags", .texts t.flags),
    ("env", t.env.toDatum),
    ("run_wrapper", .texts t.runWrapper),
    ("timeout_secs", .nat t.timeoutSecs),
    ("compile_timeout_secs", .nat t.compileTimeoutSecs),
    ("max_output_bytes", .nat t.maxOutputBytes),
    ("cpu_limit_secs", .ofOption .nat t.cpuLimitSecs)]

end ToolSection

namespace PipelineSection

def decoder : Decoder PipelineSection := fun d x => do
  let s ← Slots.of d true ["parallelism"] x
  return { parallelism := ← s.orDefault "parallelism" 4 Decoder.nat64 }

def toDatum (p : PipelineSection) : Datum := .fields [("parallelism", .nat p.parallelism)]

end PipelineSection

namespace Config

def decoder : Decoder Config := fun d x => do
  let s ← Slots.of d true ["toolchain", "pipeline", "builtin_kinds", "kinds"] x
  return {
    toolchain := ← s.orDefault "toolchain" {} ToolSection.decoder
    pipeline := ← s.orDefault "pipeline" {} PipelineSection.decoder
    builtinKinds := ← s.orDefault "builtin_kinds" true Decoder.bool
    kinds := ← s.orDefault "kinds" [] KindEntry.decoder.list }

def toDatum (c : Config) : Datum :=
  .fields [
    ("toolchain", c.toolchain.toDatum),
    ("pipeline", c.pipeline.toDatum),
    ("builtin_kinds", .bool c.builtinKinds),
    ("kinds", .list (c.kinds.map KindEntry.toDatum))]

end Config

/-! ## Written configurations -/

/-- The configuration that a text gives, if it asks for nothing that it must not. -/
def Config.read (text : String) : Except SetupError Config :=
  match (Toml.read? text).bind (Config.decoder .config) with
  | some c => c.validated
  | none => .error .malformedConfig

/-- The text in a file. -/
def File.Tree.readText (t : File.Tree) (path : String) : Except IoError String := do
  match Text.Utf8.decode? (← t.read path) with
  | some text => .ok (String.ofList text)
  | none => .error .notUtf8

/-- The configuration in a file. -/
def Config.load (t : File.Tree) (path : String) : Except SetupError Config := do
  Config.read (← (t.readText path).mapError .io)

end FaultBench
