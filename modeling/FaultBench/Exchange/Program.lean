import FaultBench.Corpus.Manifest
import FaultBench.Exchange.Kind

/-!
# The exchanged form of programs and manifests
-/

namespace FaultBench

namespace Program

def decoder : Decoder Program := fun d x => do
  let s ← Slots.of d false ["kind", "class", "variant", "file_name", "source", "digest"] x
  return {
    kind := ← s.required "kind" KindId.decoder
    faultClass := ← s.required "class" FaultClass.decoder
    variant := ← s.required "variant" Variant.decoder
    fileName := ← s.required "file_name" Decoder.text
    source := ← s.required "source" Decoder.text
    digest := ← s.required "digest" Decoder.text }

def toDatum (p : Program) : Datum :=
  .fields [
    ("kind", p.kind.toDatum),
    ("class", p.faultClass.toDatum),
    ("variant", p.variant.toDatum),
    ("file_name", .text p.fileName),
    ("source", .text p.source),
    ("digest", .text p.digest)]

end Program

namespace ManifestEntry

def decoder : Decoder ManifestEntry := fun d x => do
  let s ← Slots.of d false ["kind", "class", "file", "digest"] x
  return {
    kind := ← s.required "kind" KindId.decoder
    faultClass := ← s.required "class" FaultClass.decoder
    file := ← s.required "file" Decoder.text
    digest := ← s.required "digest" Decoder.text }

def toDatum (e : ManifestEntry) : Datum :=
  .fields [
    ("kind", e.kind.toDatum),
    ("class", e.faultClass.toDatum),
    ("file", .text e.file),
    ("digest", .text e.digest)]

end ManifestEntry

namespace Manifest

def decoder : Decoder Manifest := fun d x => do
  let s ← Slots.of d false ["schema_version", "programs"] x
  return {
    schemaVersion := ← s.required "schema_version" Decoder.text
    programs := ← s.required "programs" ManifestEntry.decoder.list }

def toDatum (m : Manifest) : Datum :=
  .fields [
    ("schema_version", .text m.schemaVersion),
    ("programs", .list (m.programs.map ManifestEntry.toDatum))]

end Manifest

end FaultBench
