import FaultBench.Data.Json.Writer
import FaultBench.Diagnostic.Compiler
import FaultBench.Exchange.Kind
import FaultBench.Report

/-!
# The exchanged form of errors, diagnostics, verdicts and reports
-/

namespace FaultBench

def ErrorCategory.decoder : Decoder ErrorCategory :=
  Decoder.choice ErrorCategory.all ErrorCategory.name

def ErrorCategory.toDatum (c : ErrorCategory) : Datum := .text c.name

def Severity.decoder : Decoder Severity := Decoder.choice Severity.all Severity.name

def Severity.toDatum (s : Severity) : Datum := .text s.name

/-! ## Diagnostics -/

namespace Diagnostic

def decoder : Decoder Diagnostic := fun d x => do
  let s ← Slots.of d false ["file", "line", "column", "severity", "message"] x
  return {
    file := ← s.required "file" Decoder.text
    line := ← s.required "line" Decoder.nat32
    column := ← s.required "column" Decoder.nat32
    severity := ← s.required "severity" Severity.decoder
    message := ← s.required "message" Decoder.text }

def toDatum (d : Diagnostic) : Datum :=
  .fields [
    ("file", .text d.file),
    ("line", .nat d.line),
    ("column", .nat d.column),
    ("severity", d.severity.toDatum),
    ("message", .text d.message)]

end Diagnostic

/-! ## Errors of runs -/

namespace RunError

/-- An error of the given type, whose fields stand in `x`. -/
def ofTag (tag : String) (x : Datum) : Option RunError :=
  let slots (names : List String) := Slots.of .gathered false names x
  match tag with
  | "compile" => do
    let s ← slots ["kind", "detail", "diagnostics"]
    return .compile (← s.required "kind" KindId.decoder) (← s.required "detail" Decoder.text)
      (← s.required "diagnostics" Decoder.text.list)
  | "timeout" => do
    let s ← slots ["kind", "elapsed_ms", "limit_ms"]
    return .timeout (← s.required "kind" KindId.decoder) (← s.required "elapsed_ms" Decoder.nat64)
      (← s.required "limit_ms" Decoder.nat64)
  | "tool_unavailable" => do
    let s ← slots ["tool", "reason"]
    return .toolUnavailable (← s.required "tool" Decoder.text) (← s.required "reason" Decoder.text)
  | "workspace" => do
    let s ← slots ["kind", "reason"]
    return .workspace (← s.required "kind" KindId.decoder) (← s.required "reason" Decoder.text)
  | "cancelled" => do
    let s ← slots ["kind"]
    return .cancelled (← s.required "kind" KindId.decoder)
  | "internal" => do
    let s ← slots ["kind", "reason"]
    return .internal (← s.required "kind" KindId.decoder) (← s.required "reason" Decoder.text)
  | _ => none

/-- The type of an error is one of its fields, or the first item of a list. -/
def decoder : Decoder RunError := fun _ x =>
  if !x.isWhole then none
  else match x with
    | .fields kvs =>
      match Slots.atMostOnce kvs "type" with
      | some (some (.text tag)) => ofTag tag (.fields (kvs.filter (·.1 != "type")))
      | _ => none
    | .list (.text tag :: rest) => ofTag tag (.list rest)
    | _ => none

def toDatum : RunError → Datum
  | .compile kind detail diagnostics =>
    .fields [("type", .text "compile"), ("kind", kind.toDatum), ("detail", .text detail),
      ("diagnostics", .texts diagnostics)]
  | .timeout kind elapsed limit =>
    .fields [("type", .text "timeout"), ("kind", kind.toDatum), ("elapsed_ms", .nat elapsed),
      ("limit_ms", .nat limit)]
  | .toolUnavailable tool reason =>
    .fields [("type", .text "tool_unavailable"), ("tool", .text tool), ("reason", .text reason)]
  | .workspace kind reason =>
    .fields [("type", .text "workspace"), ("kind", kind.toDatum), ("reason", .text reason)]
  | .cancelled kind => .fields [("type", .text "cancelled"), ("kind", kind.toDatum)]
  | .internal kind reason =>
    .fields [("type", .text "internal"), ("kind", kind.toDatum), ("reason", .text reason)]

end RunError

/-! ## Verdicts -/

namespace Status

/-- The status of the given label or number; the fields of an error stand in `kvs`. -/
def ofTag (tag : Datum) (kvs : List (String × Datum)) : Option Status :=
  match tag with
  | .text "pass" | .int 0 => some .pass
  | .text "fail" | .int 1 => some .fail
  | .text "error" | .int 2 => do
    let s ← Slots.ofFields .gathered false ["category", "message"] kvs
    return .error (← s.required "category" ErrorCategory.decoder)
      (← s.required "message" Decoder.text)
  | _ => none

/-- The fields of a status, which stand among those of its verdict. -/
def toFields : Status → List (String × Datum)
  | .pass => [("status", .text "pass")]
  | .fail => [("status", .text "fail")]
  | .error category message =>
    [("status", .text "error"), ("category", category.toDatum), ("message", .text message)]

end Status

namespace Verdict

/-- The names of the fields of a verdict that are not its status's. -/
def fieldNames : List String :=
  ["kind", "class", "expected", "match_mode", "observed", "exit_code", "duration_ms",
    "program_digest"]

def decoder : Decoder Verdict := fun d x =>
  match x with
  | .fields kvs => do
    let s ← Slots.ofFields d false fieldNames kvs
    let others := kvs.filter fun kv => !fieldNames.contains kv.1
    if !(Datum.fields others).isWhole then none
    let tag ← (← Slots.atMostOnce others "status")
    return {
      kind := ← s.required "kind" KindId.decoder
      faultClass := ← s.required "class" FaultClass.decoder
      status := ← Status.ofTag tag others
      expected := ← s.required "expected" Decoder.text
      matchMode := ← s.required "match_mode" MatchMode.decoder
      observed := ← s.optional "observed" Decoder.text
      exitCode := ← s.optional "exit_code" Decoder.int32
      durationMs := ← s.optional "duration_ms" Decoder.nat64
      programDigest := ← s.optional "program_digest" Decoder.text }
  | _ => none

def toDatum (v : Verdict) : Datum :=
  .fields ([("kind", v.kind.toDatum), ("class", v.faultClass.toDatum)] ++ v.status.toFields ++ [
    ("expected", .text v.expected),
    ("match_mode", v.matchMode.toDatum),
    ("observed", .ofOption .text v.observed),
    ("exit_code", .ofOption .int v.exitCode),
    ("duration_ms", .ofOption .nat v.durationMs),
    ("program_digest", .ofOption .text v.programDigest)])

end Verdict

/-! ## Reports -/

def Uuid.decoder : Decoder Uuid := Decoder.text.bind Uuid.ofString?

def Time.decoder : Decoder Time := Decoder.text.bind Time.ofString?

namespace Summary

def decoder : Decoder Summary := fun d x => do
  let s ← Slots.of d false ["total", "passed", "failed", "errored"] x
  return {
    total := ← s.required "total" Decoder.nat64
    passed := ← s.required "passed" Decoder.nat64
    failed := ← s.required "failed" Decoder.nat64
    errored := ← s.required "errored" Decoder.nat64 }

def toDatum (s : Summary) : Datum :=
  .fields [("total", .nat s.total), ("passed", .nat s.passed), ("failed", .nat s.failed),
    ("errored", .nat s.errored)]

end Summary

namespace Report

def decoder : Decoder Report := fun d x => do
  let s ← Slots.of d false ["run_id", "generated_at", "verdicts", "summary", "aborted"] x
  return {
    head := {
      runId := ← s.required "run_id" Uuid.decoder
      generatedAt := ← s.required "generated_at" Time.decoder }
    verdicts := ← s.required "verdicts" Verdict.decoder.list
    summary := ← s.required "summary" Summary.decoder
    aborted := ← s.optional "aborted" Decoder.text }

def toDatum (r : Report) : Datum :=
  .fields [
    ("run_id", .text r.head.runId.text),
    ("generated_at", .text (r.head.generatedAt.text "Z")),
    ("verdicts", .list (r.verdicts.map Verdict.toDatum)),
    ("summary", r.summary.toDatum),
    ("aborted", .ofOption .text r.aborted)]

/-- The report as indented JSON. -/
def json (r : Report) : String := Json.write .indented r.toDatum

end Report

end FaultBench
