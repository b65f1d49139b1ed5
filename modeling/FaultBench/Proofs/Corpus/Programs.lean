import FaultBench.Corpus
import FaultBench.Proofs.File.Actions

/-!
# Sources in a corpus

A program has a directory of its own in the corpus, and a file that is named for its kind as well
(`emitProgram_ok`). When programs are written one after the other, those that were written are the
first ones, and no file but theirs is changed (`exists_written`). An emission writes programs so,
and then it fails, or all of them were written and the manifest is written last (`run_emit`).
-/

namespace FaultBench

open File FaultBench.File.Tree

/-! ## Ids as names -/

namespace KindId

variable (id : KindId)

theorem isName_text : Path.IsName id.text :=
  ⟨id.ne_empty, fun hMem => absurd (id.chars _ hMem) (by decide)⟩

theorem ne_of_dot {s : String} (h : '.' ∈ s.toList) : id.text ≠ s := by
  rintro rfl
  exact absurd (id.chars _ h) (by decide)

theorem isPlain_text : IsPlain id.text := ⟨id.ne_of_dot (by decide), id.ne_of_dot (by decide)⟩

theorem toList_sourceName : (id.text ++ ".c").toList = id.text.toList ++ ['.', 'c'] := by
  rw [String.toList_append]
  rfl

theorem isName_sourceName : Path.IsName (id.text ++ ".c") where
  ne_empty h := id.ne_empty (String.append_eq_empty_iff.mp h).1
  noSlash h := by
    rw [id.toList_sourceName, List.mem_append] at h
    rcases h with h | h
    · exact id.isName_text.noSlash h
    · exact absurd h (by decide)

theorem sourceName_ne {s : String} (h : s.toList.getLast? ≠ some 'c') : id.text ++ ".c" ≠ s := by
  rintro rfl
  rw [id.toList_sourceName] at h
  simp at h

theorem isPlain_sourceName : IsPlain (id.text ++ ".c") :=
  ⟨id.sourceName_ne (by decide), id.sourceName_ne (by decide)⟩

end KindId

/-- The program has the file name of its kind and the digest of its source. -/
def Program.IsOfSource (p : Program) : Prop := p = .ofSource p.kind p.faultClass p.variant p.source

theorem Program.isOfSource_ofSource (kind : KindId) (c : FaultClass) (v : Variant)
    (source : String) : (ofSource kind c v source).IsOfSource :=
  rfl

theorem Program.IsOfSource.fileName {p : Program} (h : p.IsOfSource) :
    p.fileName = p.kind.text ++ ".c" :=
  congrArg Program.fileName h

theorem Program.IsOfSource.digest {p : Program} (h : p.IsOfSource) :
    p.digest = Digest.Sha256.hex p.source.toUTF8.toList :=
  congrArg Program.digest h

namespace Corpus

variable {dir : String} {p : Program} {ps : List Program} {t t' : Tree} {root : Location}

/-- Where the source of a program stands in a corpus. -/
def sourceLocation (root : Location) (p : Program) : Location :=
  root ++ [p.kind.text, p.kind.text ++ ".c"]

/-- What is written for programs, the last one first. -/
def writes (root : Location) (ps : List Program) : List (Location × List UInt8) :=
  (ps.map fun p => (sourceLocation root p, p.source.toUTF8.toList)).reverse

theorem writes_cons : writes root (p :: ps) =
    writes root ps ++ [(sourceLocation root p, p.source.toUTF8.toList)] := by
  rw [writes, List.map_cons, List.reverse_cons]
  rfl

/-- Directories are made on the way to the corpus or to one of the programs. -/
def OnWays (workingDirectory : Location) (dir : String) (ps : List Program) (l : Location) : Prop :=
  OnWay workingDirectory dir l ∨ ∃ p ∈ ps, OnWay workingDirectory (programDirectory dir p) l

/-- The path of a program's source. -/
def sourcePath (dir : String) (p : Program) : String :=
  Path.join dir (p.kind.text ++ "/" ++ (p.kind.text ++ ".c"))

theorem programFile_eq (hp : p.IsOfSource) : programFile dir p = sourcePath dir p := by
  rw [programFile, programDirectory, hp.fileName,
    Path.join_join p.kind.isName_text p.kind.isName_sourceName, sourcePath]

/-- The directory of a program lies in that of the corpus. -/
theorem exists_leads (h : t.Leads (programDirectory dir p) root) :
    ∃ l, t.Leads dir l ∧ root = l ++ [p.kind.text] := by
  have hRelative := p.kind.isName_text.not_isAbsolute
  rw [Leads, programDirectory, Path.names_join hRelative, p.kind.isName_text.names_eq, startOf,
    Path.isAbsolute_join hRelative, walk_append] at h
  obtain ⟨l, hLeads, hLast⟩ := bind_eq_ok_iff.mp h
  exact ⟨l, hLeads, walk_singleton p.kind.isPlain_text hLast⟩

/-- The sources of these programs were written below `root`, and no other file was changed. -/
structure Written (dir : String) (root : Location) (ps : List Program) (made : Location → Prop)
    (t t' : Tree) : Prop where
  leads : ps ≠ [] → t'.Leads dir root
  leadsTo : ∀ p ∈ ps, t'.LeadsTo (sourcePath dir p) (sourceLocation root p)
  changes : Changes (writes root ps) made t t'

namespace Written

variable {made made' : Location → Prop} {root' : Location} {t₁ : Tree}

theorem nil (h : Changes [] made t t') : Written dir root [] made t t' :=
  ⟨fun hNot => absurd rfl hNot, List.forall_mem_nil _, h⟩

theorem mono (h : Written dir root ps made t t') (hMade : ∀ l, made l → made' l) :
    Written dir root ps made' t t' :=
  ⟨h.leads, h.leadsTo, h.changes.mono hMade⟩

/-- What was made before the sources were written was made with them. -/
theorem after (hMade : Changes [] made t t₁) (h : Written dir root ps made t₁ t') :
    Written dir root ps made t t' := by
  have hAll := hMade.trans h.changes
  rw [List.append_nil] at hAll
  exact ⟨h.leads, h.leadsTo, hAll⟩

/-- Where the corpus stands is of no account before a source is written. -/
theorem at_root (h : Written dir root ps made t t') (hRoot : t'.Leads dir root') :
    Written dir root' ps made t t' := by
  cases ps with
  | nil => exact nil h.changes
  | cons p ps =>
      have hSame := (h.leads (List.cons_ne_nil p ps)).unique hRoot
      exact hSame ▸ h

theorem cons (h : Written dir root [p] made t t₁) (h' : Written dir root' ps made t₁ t') :
    Written dir root (p :: ps) made t t' := by
  have hRoot : t'.Leads dir root := (h.leads (List.cons_ne_nil p [])).mono h'.changes
  have hRest := h'.at_root hRoot
  refine ⟨fun _ => hRoot, List.forall_mem_cons.mpr ⟨?_, hRest.leadsTo⟩, ?_⟩
  · exact (h.leadsTo p List.mem_cons_self).mono h'.changes
  · rw [writes_cons]
    exact h.changes.trans hRest.changes

end Written

/-- A program that is written stands in its place. -/
theorem emitProgram_ok (hp : p.IsOfSource)
    (h : (emitProgram dir p).run.run t = (.ok (), t')) : ∃ root,
      Written dir root [p] (OnWay t.workingDirectory (programDirectory dir p)) t t' := by
  have hMade := Action.changes_ensureDirectories (programDirectory dir p) t
  rw [emitProgram, run_bind] at h
  split at h
  next t₁ hRun =>
    rw [hRun] at hMade
    obtain ⟨l, hLeadsTo, hWritten⟩ := Action.writeText_ok h
    have hName := hp.fileName ▸ p.kind.isName_sourceName
    have hPlain := hp.fileName ▸ p.kind.isPlain_sourceName
    obtain ⟨parent, hParent, hl⟩ := hLeadsTo.exists_leads hName hPlain
    obtain ⟨root, hRoot, hp'⟩ := exists_leads hParent
    have hLocation : l = sourceLocation root p := by
      rw [hl, hp', hp.fileName, List.append_assoc]
      rfl
    subst hLocation
    refine ⟨root, fun _ => hRoot.mono hWritten, List.forall_mem_singleton.mpr ?_, ?_⟩
    · rw [← programFile_eq hp]
      exact hLeadsTo.mono hWritten
    · exact hMade.trans (hWritten.mono fun _ hFalse => hFalse.elim)
  next => cases h

/-- A program that cannot be written changes no file. -/
theorem emitProgram_error {e : IoError}
    (h : (emitProgram dir p).run.run t = (.error e, t')) :
    Changes [] (OnWay t.workingDirectory (programDirectory dir p)) t t' := by
  have hMade := Action.changes_ensureDirectories (programDirectory dir p) t
  rw [emitProgram, run_bind] at h
  split at h
  next hRun =>
    rw [hRun] at hMade
    rw [Action.writeText_error h]
    exact hMade
  next hRun =>
    rw [hRun] at hMade
    cases h
    exact hMade

/-- Programs are written in their order, up to one that cannot be, and no file but theirs is
changed. -/
theorem exists_written (hps : ∀ p ∈ ps, p.IsOfSource) {r : Except IoError Unit}
    (h : (ps.forM (emitProgram dir)).run.run t = (r, t')) :
    ∃ done root, done <+: ps ∧ (r = .ok () → done = ps) ∧
      Written dir root done (OnWays t.workingDirectory dir ps) t t' := by
  induction ps generalizing t with
  | nil =>
      cases h
      exact ⟨[], [], List.prefix_rfl, fun _ => rfl, .nil (.refl _)⟩
  | cons p ps ih =>
      obtain ⟨hp, hps⟩ := List.forall_mem_cons.mp hps
      have hWay : ∀ l, OnWay t.workingDirectory (programDirectory dir p) l →
          OnWays t.workingDirectory dir (p :: ps) l := fun l hl =>
        .inr ⟨p, List.mem_cons_self, hl⟩
      have hWays : ∀ l, OnWays t.workingDirectory dir ps l →
          OnWays t.workingDirectory dir (p :: ps) l := fun l hl =>
        hl.imp_right fun ⟨q, hq, hl⟩ => ⟨q, List.mem_cons_of_mem p hq, hl⟩
      rw [List.forM, run_bind] at h
      split at h
      next t₁ hRun =>
        obtain ⟨root, hFirst⟩ := emitProgram_ok hp hRun
        obtain ⟨done, root', hDone, hAll, hRest⟩ := ih hps h
        rw [hFirst.changes.workingDirectory] at hRest
        exact ⟨p :: done, root, List.prefix_cons_inj p |>.mpr hDone,
          fun hr => congrArg (p :: ·) (hAll hr), (hFirst.mono hWay).cons (hRest.mono hWays)⟩
      next e t₁ hRun =>
        cases h
        exact ⟨[], [], List.nil_prefix, nofun, .nil ((emitProgram_error hRun).mono hWay)⟩

/-- What a manifest holds. -/
def manifestText (ps : List Program) : String :=
  Json.write .indented (Manifest.ofPrograms ps).toDatum

/-- An emission writes the sources of some first programs, and then it fails, or all were written
and the manifest is written last. -/
theorem run_emit (hps : ∀ p ∈ ps, p.IsOfSource) {r : Except IoError String}
    (h : (emit dir ps).run.run t = (r, t')) :
    ∃ done root t₁, done <+: ps ∧ Written dir root done (OnWays t.workingDirectory dir ps) t t₁ ∧
      ((∃ e, r = .error e) ∧ t' = t₁ ∨ r = .ok (manifestFile dir) ∧ done = ps ∧
        (Action.writeText (manifestFile dir) (manifestText ps)).run.run t₁ = (.ok (), t')) := by
  have hMade : Changes [] (OnWays t.workingDirectory dir ps) t
      ((Action.ensureDirectories dir).run.run t).2 :=
    (Action.changes_ensureDirectories dir t).mono fun _ hl => .inl hl
  rw [emit, run_bind] at h
  split at h
  next t₁ hRun =>
    rw [hRun] at hMade
    rw [run_bind] at h
    split at h
    next t₂ hSources =>
      obtain ⟨done, root, hDone, hAll, hWritten⟩ := exists_written hps hSources
      rw [hMade.workingDirectory] at hWritten
      refine ⟨done, root, t₂, hDone, hWritten.after hMade, ?_⟩
      rw [run_bind] at h
      split at h
      next hManifest =>
        cases h
        exact .inr ⟨rfl, hAll rfl, hManifest⟩
      next hManifest =>
        cases h
        exact .inl ⟨⟨_, rfl⟩, Action.writeText_error hManifest⟩
    next hSources =>
      cases h
      obtain ⟨done, root, hDone, -, hWritten⟩ := exists_written hps hSources
      rw [hMade.workingDirectory] at hWritten
      exact ⟨done, root, t', hDone, hWritten.after hMade, .inl ⟨⟨_, rfl⟩, rfl⟩⟩
  next hRun =>
    rw [hRun] at hMade
    cases h
    exact ⟨[], [], t', List.nil_prefix, .nil hMade, .inl ⟨⟨_, rfl⟩, rfl⟩⟩

end Corpus

end FaultBench
