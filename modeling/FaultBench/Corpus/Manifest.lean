import FaultBench.Program

/-!
# Manifests

A manifest lists the programs of a corpus with the files that hold them.
-/

namespace FaultBench

structure ManifestEntry where
  kind : KindId
  faultClass : FaultClass
  /-- The path of the file within the directory of the corpus. -/
  file : String
  digest : String
  deriving DecidableEq

structure Manifest where
  schemaVersion : String
  programs : List ManifestEntry
  deriving DecidableEq

def ManifestEntry.ofProgram (p : Program) : ManifestEntry where
  kind := p.kind
  faultClass := p.faultClass
  file := p.kind.text ++ "/" ++ p.fileName
  digest := p.digest

def Manifest.ofPrograms (ps : List Program) : Manifest := ⟨"1", ps.map .ofProgram⟩

end FaultBench
