import FaultBench.Data.Record
import FaultBench.Kind

/-!
# The exchanged form of kinds
-/

namespace FaultBench

def KindId.decoder : Decoder KindId := Decoder.text.bind KindId.ofString?

def KindId.toDatum (id : KindId) : Datum := .text id.text

def FaultClass.decoder : Decoder FaultClass := Decoder.choice FaultClass.all FaultClass.name

def FaultClass.toDatum (c : FaultClass) : Datum := .text c.name

def Construct.decoder : Decoder Construct := Decoder.choice Construct.all Construct.name

def Construct.toDatum (c : Construct) : Datum := .text c.name

def MatchMode.decoder : Decoder MatchMode := Decoder.choice [.substring, .regex] MatchMode.name

def MatchMode.toDatum (m : MatchMode) : Datum := .text m.name

def Access.decoder : Decoder Access := Decoder.choice [.read, .write] Access.name

def Access.toDatum (a : Access) : Datum := .text a.name

/-! ## Signatures -/

namespace Signature

def decoder : Decoder Signature := fun d x => do
  let s ← Slots.of d false ["pattern", "mode"] x
  return {
    pattern := ← s.required "pattern" Decoder.text
    mode := ← s.orDefault "mode" .substring MatchMode.decoder }

def toDatum (s : Signature) : Datum :=
  .fields [("pattern", .text s.pattern), ("mode", s.mode.toDatum)]

end Signature

/-! ## Variants -/

namespace Variant

def fieldNames : List String :=
  ["alloc_size", "buffer_size", "overflow_by", "call_depth", "leak_count", "access", "spin_forever"]

def decoder : Decoder Variant := fun d x => do
  let s ← Slots.of d false fieldNames x
  let v : Variant := {}
  return {
    allocSize := ← s.orDefault "alloc_size" v.allocSize Decoder.int64
    bufferSize := ← s.orDefault "buffer_size" v.bufferSize Decoder.int64
    overflowBy := ← s.orDefault "overflow_by" v.overflowBy Decoder.int64
    callDepth := ← s.orDefault "call_depth" v.callDepth Decoder.nat32
    leakCount := ← s.orDefault "leak_count" v.leakCount Decoder.nat32
    access := ← s.orDefault "access" v.access Access.decoder
    spinForever := ← s.orDefault "spin_forever" v.spinForever Decoder.bool }

def toDatum (v : Variant) : Datum :=
  .fields [
    ("alloc_size", .int v.allocSize),
    ("buffer_size", .int v.bufferSize),
    ("overflow_by", .int v.overflowBy),
    ("call_depth", .nat v.callDepth),
    ("leak_count", .nat v.leakCount),
    ("access", v.access.toDatum),
    ("spin_forever", .bool v.spinForever)]

end Variant

namespace VariantPatch

def decoder : Decoder VariantPatch := fun d x => do
  let s ← Slots.of d true Variant.fieldNames x
  return {
    allocSize := ← s.orDefault "alloc_size" none Decoder.int64.option
    bufferSize := ← s.orDefault "buffer_size" none Decoder.int64.option
    overflowBy := ← s.orDefault "overflow_by" none Decoder.int64.option
    callDepth := ← s.orDefault "call_depth" none Decoder.nat32.option
    leakCount := ← s.orDefault "leak_count" none Decoder.nat32.option
    access := ← s.orDefault "access" none Access.decoder.option
    spinForever := ← s.orDefault "spin_forever" none Decoder.bool.option }

def toDatum (p : VariantPatch) : Datum :=
  .fields [
    ("alloc_size", .ofOption .int p.allocSize),
    ("buffer_size", .ofOption .int p.bufferSize),
    ("overflow_by", .ofOption .int p.overflowBy),
    ("call_depth", .ofOption .nat p.callDepth),
    ("leak_count", .ofOption .nat p.leakCount),
    ("access", .ofOption Access.toDatum p.access),
    ("spin_forever", .ofOption .bool p.spinForever)]

end VariantPatch

/-! ## Kinds -/

namespace Kind

def decoder : Decoder Kind := fun d x => do
  let s ← Slots.of d false ["id", "class", "constructs", "signature", "variant"] x
  return {
    id := ← s.required "id" KindId.decoder
    faultClass := ← s.required "class" FaultClass.decoder
    constructs := ← s.required "constructs" Construct.decoder.list
    signature := ← s.required "signature" Signature.decoder
    variant := ← s.required "variant" Variant.decoder }

def toDatum (k : Kind) : Datum :=
  .fields [
    ("id", k.id.toDatum),
    ("class", k.faultClass.toDatum),
    ("constructs", .list (k.constructs.map Construct.toDatum)),
    ("signature", k.signature.toDatum),
    ("variant", k.variant.toDatum)]

end Kind

end FaultBench
