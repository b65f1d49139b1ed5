import FaultBench.Proofs.Corpus.Programs
import FaultBench.Proofs.Exchange.Kinds

/-!
# Emitted corpora

Where a corpus of programs of distinct kinds is emitted, its manifest lists them in their order,
each of them with the file that holds its source and with the digest of what the file holds. Nothing
else is changed but for directories that are made: `emit_ok`.
-/

namespace FaultBench.Corpus

open File FaultBench.File.Tree

variable {dir path : String} {p : Program} {ps : List Program} {t t' : Tree} {root : Location}

/-- Where the manifest stands in a corpus. -/
def manifestLocation (root : Location) : Location := root ++ ["manifest.json"]

theorem isName_manifest : Path.IsName "manifest.json" := ⟨by decide, by decide⟩

theorem isPlain_manifest : IsPlain "manifest.json" := ⟨by decide, by decide⟩

theorem exists_leads_of_manifest {l : Location} (h : t.LeadsTo (manifestFile dir) l) :
    ∃ root, t.Leads dir root ∧ l = manifestLocation root :=
  h.exists_leads isName_manifest isPlain_manifest

/-! ## Locations -/

/-- What is written stands at these locations. -/
def locations (root : Location) (ps : List Program) : List Location :=
  manifestLocation root :: ps.map (sourceLocation root)

theorem sourceLocation_ne_manifestLocation (root root' : Location) (p : Program) :
    sourceLocation root p ≠ manifestLocation root' := by
  intro hEq
  have hLast := congrArg List.getLast? hEq
  rw [sourceLocation, manifestLocation, List.append_cons, List.getLast?_concat,
    List.getLast?_concat] at hLast
  exact p.kind.sourceName_ne (by decide) (Option.some.inj hLast)

theorem nodup_sourceLocations (h : (ps.map (·.kind)).Nodup) :
    (ps.map (sourceLocation root)).Nodup := by
  have hInjective : Function.Injective fun id : KindId =>
      root ++ [id.text, id.text ++ ".c"] := by
    intro id id' hEq
    exact KindId.ext_text (List.cons.inj (List.append_cancel_left hEq)).1
  have hMap := h.map hInjective
  rwa [List.map_map] at hMap

theorem nodup_locations (h : (ps.map (·.kind)).Nodup) : (locations root ps).Nodup := by
  refine List.nodup_cons.mpr ⟨fun hMem => ?_, nodup_sourceLocations h⟩
  obtain ⟨p, -, hEq⟩ := List.mem_map.mp hMem
  exact sourceLocation_ne_manifestLocation root root p hEq

theorem prefix_of_mem_locations {l : Location} (h : l ∈ locations root ps) : root <+: l := by
  rcases List.mem_cons.mp h with rfl | h
  · exact List.prefix_append root _
  · obtain ⟨p, -, rfl⟩ := List.mem_map.mp h
    exact List.prefix_append root _

theorem lookup_of_mem {kvs : List (Location × List UInt8)} {l : Location} {c : List UInt8}
    (h : (kvs.map Prod.fst).Nodup) (hMem : (l, c) ∈ kvs) : kvs.lookup l = some c := by
  obtain ⟨before, after, rfl⟩ := List.append_of_mem hMem
  rw [List.map_append, List.map_cons, List.nodup_middle, List.nodup_cons] at h
  refine List.lookup_eq_some_iff.mpr ⟨before, after, rfl, fun kv hkv => bne_iff_ne.mpr ?_⟩
  intro hEq
  have hKey := List.mem_map_of_mem (f := Prod.fst) hkv
  exact h.1 (List.mem_append_left _ (hEq ▸ hKey))

theorem map_fst_writes :
    (writes root ps).map Prod.fst = (ps.map (sourceLocation root)).reverse := by
  rw [writes, List.map_reverse, List.map_map]
  rfl

/-- Under distinct kinds, each source stands where it was written. -/
theorem lookup_writes (hKinds : (ps.map (·.kind)).Nodup) (hp : p ∈ ps) :
    (writes root ps).lookup (sourceLocation root p) = some p.source.toUTF8.toList := by
  refine lookup_of_mem ?_ (List.mem_reverse.mpr (List.mem_map_of_mem hp))
  rw [map_fst_writes]
  exact List.nodup_reverse.mpr (nodup_sourceLocations hKinds)

/-! ## Emission -/

/-- An emission that succeeds writes every source, and then the manifest. -/
theorem emission_ok (hps : ∀ p ∈ ps, p.IsOfSource)
    (h : (emit dir ps).run.run t = (.ok path, t')) : path = manifestFile dir ∧ ∃ root,
      t'.Leads dir root ∧ t'.LeadsTo (manifestFile dir) (manifestLocation root) ∧
      (∀ p ∈ ps, t'.LeadsTo (sourcePath dir p) (sourceLocation root p)) ∧
      Changes ((manifestLocation root, (manifestText ps).toUTF8.toList) :: writes root ps)
        (OnWays t.workingDirectory dir ps) t t' := by
  obtain ⟨done, root, t₁, -, hWritten, ⟨⟨e, hError⟩, -⟩ | ⟨hOk, rfl, hManifest⟩⟩ := run_emit hps h
  · cases hError
  · obtain ⟨l, hLeadsTo, hLast⟩ := Action.writeText_ok hManifest
    obtain ⟨root', hRoot, rfl⟩ := exists_leads_of_manifest hLeadsTo
    have hHere := hWritten.at_root hRoot
    refine ⟨Except.ok.inj hOk, root', hRoot.mono hLast, hLeadsTo.mono hLast,
      fun p hp => (hHere.leadsTo p hp).mono hLast, ?_⟩
    exact hHere.changes.trans (hLast.mono fun _ hFalse => hFalse.elim)

/-- The manifest and the sources stand below the directory that `dir` leads to, each at a location
of its own, and no other file was changed. -/
structure Placed (dir : String) (root : Location) (ps : List Program) (t t' : Tree) : Prop where
  directory : t'.Leads dir root
  manifest : t'.LeadsTo (manifestFile dir) (manifestLocation root)
  sources : ∀ p ∈ ps, t'.LeadsTo (sourcePath dir p) (sourceLocation root p)
  distinct : (locations root ps).Nodup
  below : ∀ l ∈ locations root ps, root <+: l
  others : ∀ l, l ∉ locations root ps →
    t'.entry? l = t.entry? l ∨ t.entry? l = none ∧ t'.entry? l = some .directory

/-- **An emitted corpus agrees with itself, and nothing else was touched.** -/
theorem emit_ok (hps : ∀ p ∈ ps, p.IsOfSource) (hKinds : (ps.map (·.kind)).Nodup)
    (h : (emit dir ps).run.run t = (.ok path, t')) :
    path = Path.join dir "manifest.json" ∧
    (∃ (text : String) (m : Manifest), t'.read path = .ok text.toUTF8.toList ∧
      (Json.read? text).bind (Manifest.decoder .json) = some m ∧
      m.programs.Forall₂ (fun e p => e.kind = p.kind ∧ e.faultClass = p.faultClass ∧
        e.file = p.kind.text ++ "/" ++ (p.kind.text ++ ".c") ∧
        t'.read (Path.join dir e.file) = .ok p.source.toUTF8.toList ∧
        Digest.Sha256.hex p.source.toUTF8.toList = e.digest) ps) ∧
    ∃ root, Placed dir root ps t t' := by
  obtain ⟨rfl, root, hRoot, hManifest, hSources, hChanges⟩ := emission_ok hps h
  have hRead : t'.read (manifestFile dir) = .ok (manifestText ps).toUTF8.toList := by
    obtain ⟨x, hx⟩ := hChanges.files (manifestLocation root) _ List.lookup_cons_self
    exact hManifest.read hx
  have hSource : ∀ p ∈ ps, t'.read (sourcePath dir p) = .ok p.source.toUTF8.toList := by
    intro p hp
    have hOther : (sourceLocation root p == manifestLocation root) = false :=
      beq_false_of_ne (sourceLocation_ne_manifestLocation root root p)
    obtain ⟨x, hx⟩ := hChanges.files (sourceLocation root p) p.source.toUTF8.toList (by
      rw [List.lookup_cons, hOther]
      exact lookup_writes hKinds hp)
    exact (hSources p hp).read hx
  refine ⟨rfl, ⟨_, _, hRead, (Manifest.recovers (n := 0) _).survives (by decide) .indented, ?_⟩,
    root, hRoot, hManifest, hSources, nodup_locations hKinds, fun _ => prefix_of_mem_locations, ?_⟩
  · refine List.forall₂_map_left_iff.mpr (List.forall₂_same.mpr fun p hp => ?_)
    have hFile : (ManifestEntry.ofProgram p).file = p.kind.text ++ "/" ++ (p.kind.text ++ ".c") :=
      congrArg (p.kind.text ++ "/" ++ ·) (hps p hp).fileName
    exact ⟨rfl, rfl, hFile, hFile ▸ hSource p hp, (hps p hp).digest.symm⟩
  · intro l hl
    have hNone : ((manifestLocation root, (manifestText ps).toUTF8.toList) ::
        writes root ps).lookup l = none := by
      rw [List.lookup_eq_none_iff]
      intro kv hkv
      have hKey := List.mem_map_of_mem (f := Prod.fst) hkv
      rw [List.map_cons, map_fst_writes, List.mem_cons, List.mem_reverse, ← List.mem_cons] at hKey
      exact bne_iff_ne.mpr fun hEq => hl (hEq ▸ hKey)
    exact (hChanges.others l hNone).imp_right fun hMade => hMade.2

/-- A directory with a corpus of old in it. -/
def oldTree : Tree where
  entries := [(["out"], .directory), (["out", "leak"], .directory),
    (["out", "leak", "leak.c"], .file [0x78] true), (["out", "manifest.json"], .file [] false),
    (["note"], .file [0x79] false)]

def twoPrograms : List Program :=
  [.ofSource FaultClass.leak.canonicalId .leak {} "int main(void);",
    .ofSource FaultClass.doubleFree.canonicalId .doubleFree {} ""]

theorem isOfSource_twoPrograms : ∀ p ∈ twoPrograms, p.IsOfSource := by
  intro p hp
  rcases List.mem_pair.mp hp with rfl | rfl
  · exact Program.isOfSource_ofSource _ _ _ _
  · exact Program.isOfSource_ofSource _ _ _ _

theorem emit_ok_twoPrograms : (∀ p ∈ twoPrograms, p.IsOfSource) ∧ (twoPrograms.map (·.kind)).Nodup ∧
    ∃ path t' root, (emit "out" twoPrograms).run.run oldTree = (.ok path, t') ∧
      path = "out/manifest.json" ∧ Placed "out" root twoPrograms oldTree t' := by
  have hKinds : (twoPrograms.map (·.kind)).Nodup := by decide
  have hOk : ((emit "out" twoPrograms).run.run oldTree).1 = .ok "out/manifest.json" := by
    decide +kernel
  cases hRun : (emit "out" twoPrograms).run.run oldTree with
  | mk r t' =>
      rw [hRun] at hOk
      obtain rfl : r = .ok "out/manifest.json" := hOk
      obtain ⟨-, -, root, hPlaced⟩ := emit_ok isOfSource_twoPrograms hKinds hRun
      exact ⟨isOfSource_twoPrograms, hKinds, _, t', root, rfl, rfl, hPlaced⟩

end FaultBench.Corpus
