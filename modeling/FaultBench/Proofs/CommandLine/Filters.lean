import FaultBench.Proofs.Bench.Agreement
import FaultBench.Proofs.CommandLine.Runs
import FaultBench.Proofs.Config.Entries
import FaultBench.Proofs.Text.Blank

/-!
# Filters

The values that are given for kinds choose from a catalog. What they choose is told by the texts
that are left of them without the blanks around them, and without those that are blanks alone
(`chooses_iff`). If there is such a text, only kinds that are named are chosen; if there is none, no
kind is asked for, and all of them are chosen. So it is for the programs that are emitted and for the
verdicts on a run: `chosen_by_name`.
-/

namespace FaultBench.CommandLine

open TaskM

variable {given other : List String} {t : String} {c : Catalog} {ks : List Kind}
  {ids : List KindId} {id : KindId} {p p' : Progress} {code : Nat} {head : Report.Head}
  {o : RunOptions} {config : Config}

/-! ## Texts -/

/-- What is left of a value without the blanks around it. -/
def trimmed (value : String) : String := String.ofList (Text.trim value.toList)

/-- Each of the values is of blanks alone. -/
def Blank (given : List String) : Prop := ∀ s ∈ given, Text.isBlankText s.toList = true

/-- The id is one of the values, but for blanks around it. -/
def Names (given : List String) (id : KindId) : Prop := ∃ s ∈ given, trimmed s = id.text

/-- What the values say for kinds. -/
def texts (given : List String) : List String := (given.map trimmed).filter (· != "")

/-- The values say the same, but for how often and in which order. -/
def SayTheSame (given other : List String) : Prop := ∀ t, t ∈ texts given ↔ t ∈ texts other

theorem SayTheSame.symm (h : SayTheSame given other) : SayTheSame other given := fun t => (h t).symm

theorem trimmed_eq_empty_iff {s : String} : trimmed s = "" ↔ Text.isBlankText s.toList = true := by
  rw [trimmed, String.ofList_eq_empty_iff, Text.trim_eq_nil_iff]

theorem mem_texts : t ∈ texts given ↔ t ≠ "" ∧ ∃ s ∈ given, trimmed s = t := by
  rw [texts, List.mem_filter, List.mem_map, bne_iff_ne, and_comm]

theorem texts_eq_nil_iff : texts given = [] ↔ Blank given := by
  simp [texts, Blank, List.filter_eq_nil_iff, trimmed_eq_empty_iff]

theorem names_iff : Names given id ↔ id.text ∈ texts given := by
  rw [mem_texts, and_iff_right id.ne_empty, Names]

/-! ## Ids -/

theorem kindId_eq_ok_iff : SetupError.kindId t = .ok id ↔ id.text = t := by
  constructor
  · intro h
    unfold SetupError.kindId at h
    cases hOf : KindId.ofString t with
    | ok id' =>
        rw [hOf] at h
        cases h
        exact KindId.text_of_ofString hOf
    | error flaw =>
        rw [hOf] at h
        cases h
  · rintro rfl
    rw [SetupError.kindId, KindId.ofString_text]
    rfl

theorem kindIds_eq_ok_iff : kindIds given = .ok ids ↔ ids.map KindId.text = texts given := by
  refine mapM_eq_ok_iff_map fun s id => ?_
  rw [← kindId_eq_ok_iff]
  cases SetupError.kindId s <;> simp [Except.mapError]

/-! ## Choices -/

/-- The values choose the kinds from the catalog: they are ids of it, and those are selected. -/
def Chooses (c : Catalog) (given : List String) (ks : List Kind) : Prop :=
  ∃ ids, kindIds given = .ok ids ∧ c.select ids = .ok ks

theorem chooses_iff : Chooses c given ks ↔ (∀ t ∈ texts given, ∃ id ∈ c.ids, id.text = t) ∧
    ks = c.kinds.filter fun k => (texts given).isEmpty || (texts given).contains k.id.text := by
  have hWanted : ∀ ids : List KindId, ids.map KindId.text = texts given → c.wanted ids =
      c.kinds.filter fun k => (texts given).isEmpty || (texts given).contains k.id.text := by
    intro ids hTexts
    have hInjective : Function.Injective KindId.text := fun _ _ => KindId.ext_text
    refine List.filter_congr fun k _ => ?_
    rw [← hTexts, List.isEmpty_map, Bool.eq_iff_iff, Bool.or_eq_true, Bool.or_eq_true,
      List.contains_iff_mem, List.contains_iff_mem, List.mem_map_of_injective hInjective]
  unfold Chooses
  simp only [kindIds_eq_ok_iff, Catalog.select_eq_ok_iff]
  constructor
  · rintro ⟨ids, hTexts, hKnown, rfl⟩
    refine ⟨fun t ht => ?_, hWanted ids hTexts⟩
    rw [← hTexts, List.mem_map] at ht
    obtain ⟨id, hid, rfl⟩ := ht
    exact ⟨id, hKnown id hid, rfl⟩
  · rintro ⟨hKnown, rfl⟩
    obtain ⟨ids, hTexts⟩ : texts given ∈ Set.range (List.map KindId.text) := by
      rw [Set.range_list_map]
      intro t ht
      obtain ⟨id, -, hid⟩ := hKnown t ht
      exact ⟨id, hid⟩
    refine ⟨ids, hTexts, fun id hid => ?_, (hWanted ids hTexts).symm⟩
    obtain ⟨id', hid', hText⟩ := hKnown id.text (hTexts ▸ List.mem_map_of_mem hid)
    rwa [← KindId.ext_text hText]

namespace Chooses

theorem sublist (h : Chooses c given ks) : ks.Sublist c.kinds := by
  obtain ⟨ids, -, hSelect⟩ := h
  exact Catalog.select_sublist hSelect

theorem mem_iff (h : Chooses c given ks) (hGiven : ¬ Blank given) (k : Kind) :
    k ∈ ks ↔ k ∈ c.kinds ∧ Names given k.id := by
  have hTexts : (texts given).isEmpty = false := by
    rwa [← texts_eq_nil_iff, ← List.isEmpty_iff, Bool.not_eq_true] at hGiven
  rw [(chooses_iff.mp h).2, List.mem_filter, hTexts, Bool.false_or, List.contains_iff_mem,
    names_iff]

theorem all (h : Blank given) : Chooses c given c.kinds := by
  have hTexts := texts_eq_nil_iff.mpr h
  rw [chooses_iff, hTexts]
  exact ⟨nofun, (List.filter_eq_self.mpr fun _ _ => rfl).symm⟩

theorem congr (hSame : SayTheSame given other) (h : Chooses c given ks) : Chooses c other ks := by
  have hEmpty : (texts given).isEmpty = (texts other).isEmpty := by
    rw [Bool.eq_iff_iff, List.isEmpty_iff, List.isEmpty_iff, List.eq_nil_iff_forall_not_mem,
      List.eq_nil_iff_forall_not_mem]
    exact forall_congr' fun t => not_congr (hSame t)
  obtain ⟨hKnown, rfl⟩ := chooses_iff.mp h
  refine chooses_iff.mpr ⟨fun t ht => hKnown t ((hSame t).mpr ht), List.filter_congr fun k _ => ?_⟩
  rw [hEmpty, Bool.eq_iff_iff, Bool.or_eq_true, Bool.or_eq_true, List.contains_iff_mem,
    List.contains_iff_mem, hSame]

end Chooses

/-! ## Emitted corpora -/

/-- Emits the programs of kinds. -/
def emitKinds (out : String) (ks : List Kind) : TaskM Nat := do
  let ps ← synthesizeAll (.because "Failed to synthesize corpus") ks
  let manifest ← onFiles
    (fun e => .because ("Failed to write corpus to " ++ Path.quote out) (.io e))
    (Corpus.emit out ps)
  note [.emitted out ps]
  print s!"Emitted {ps.length} programs\n"
  ps.forM fun p => print s!"  {p.shortDigest}  {p.kind}\n"
  print ("Manifest: " ++ Path.quote manifest ++ "\n")
  return 0

/-- Programs are emitted where the values choose kinds, and those of the kinds are. -/
theorem run_emit_eq_ok_iff {out : String} {config : Option String} :
    (emit out given config).run.run p = (.ok code, p') ↔
      ∃ c p₁ ks, (loadConfig config >>= loadCatalog).run.run p = (.ok c, p₁) ∧
        Chooses c given ks ∧ (emitKinds out ks).run.run p₁ = (.ok code, p') := by
  have hSteps : emit out given config = (do
      let catalog ← loadCatalog (← loadConfig config)
      let requested ← ExceptT.mk (pure (kindIds given))
      let selection ← demand .ofSetup (catalog.select requested)
      emitKinds out selection) := rfl
  rw [hSteps]
  simp only [run_bind_eq_ok_iff, run_pure_eq_ok_iff, run_demand_eq_ok_iff, Chooses]
  constructor
  · rintro ⟨config, p₁, hConfig, c, p₂, hCatalog, ids, p₃, ⟨hIds, rfl⟩, ks, p₄, ⟨hSelect, rfl⟩,
      hEmit⟩
    exact ⟨c, p₄, ks, ⟨config, p₁, hConfig, hCatalog⟩, ⟨ids, hIds, hSelect⟩, hEmit⟩
  · rintro ⟨c, p₂, ks, ⟨config, p₁, hConfig, hCatalog⟩, ⟨ids, hIds, hSelect⟩, hEmit⟩
    exact ⟨config, p₁, hConfig, c, p₂, hCatalog, ids, p₂, ⟨hIds, rfl⟩, ks, p₂, ⟨hSelect, rfl⟩,
      hEmit⟩

theorem emit_of_emitKinds {out : String} (h : (emitKinds out ks).run.run p = (.ok code, p')) :
    ∃ ps manifest, ks.mapM Kind.synthesizeDefault = .ok ps ∧
      (Corpus.emit out ps).run.run p.host.tree = (.ok manifest, p'.host.tree) := by
  obtain ⟨ps, p₁, hPrograms, hRest⟩ := run_bind_eq_ok_iff.mp h
  obtain ⟨manifest, p₂, hFiles, hShown⟩ := run_bind_eq_ok_iff.mp hRest
  have hHost : p₁.host = p.host := (keeps_synthesizeAll (fun _ _ => rfl) _ _).ok hPrograms
  have hTree : p'.host = p₂.host := by
    refine Keeps.ok ?_ hShown
    refine .bind (keeps_note (fun _ _ => rfl) _) fun _ => .bind (keeps_print _) fun _ => ?_
    exact .bind (.forM fun _ => keeps_print _) fun _ => .bind (keeps_print _) fun _ => .pure 0
  exact ⟨ps, manifest, programs_of_synthesizeAll hPrograms, hHost ▸ hTree ▸ run_onFiles_ok hFiles⟩

/-- For the corpus that a task emits it is of no account how the kinds were chosen. -/
theorem emit_congr (hSame : SayTheSame given other) {out : String} {config : Option String} :
    (emit out given config).run.run p = (.ok code, p') ↔
      (emit out other config).run.run p = (.ok code, p') := by
  have hChooses : ∀ c ks, Chooses c given ks ↔ Chooses c other ks := fun c ks =>
    ⟨.congr hSame, .congr hSame.symm⟩
  simp only [run_emit_eq_ok_iff, hChooses]

/-! ## Runs -/

/-- Runs report on kinds that are chosen. -/
theorem runCorpus_ok (h : (runCorpus head o).run.run p = (.ok code, p')) :
    ∃ c ks report, Chooses c o.kinds ks ∧ report.verdicts.map Verdict.kind = ks.map Kind.id ∧
      code = report.exitCode ∧ p'.stdout = p.stdout ++ o.shown report := by
  obtain ⟨config, p₁, c, p₂, ids, hConfig, hCatalog, hIds, hRun⟩ := run_runCorpus_eq_ok_iff.mp h
  obtain ⟨session, hSession, hCode, hShown⟩ := runIds_ok hRun
  obtain ⟨ks, turns, hHeld⟩ := Bench.held_of_run hSession
  have hFirst : p₁.stdout = p.stdout := (keeps_loadConfig (fun _ _ => rfl) _).ok hConfig
  have hSecond : p₂.stdout = p₁.stdout := (keeps_loadCatalog (fun _ _ => rfl) _).ok hCatalog
  rw [hSecond, hFirst] at hShown
  exact ⟨c, ks, session.report, ⟨ids, hIds, hHeld.select_eq⟩, hHeld.verdicts_kind, hCode, hShown⟩

theorem runCorpus_congr (hSame : SayTheSame given other)
    (h : (runCorpus head { o with kinds := given }).run.run p = (.ok code, p')) :
    (runCorpus head { o with kinds := other }).run.run p = (.ok code, p') := by
  obtain ⟨config, p₁, c, p₂, ids, hConfig, hCatalog, hIds, hRun⟩ := run_runCorpus_eq_ok_iff.mp h
  obtain ⟨session, hSession, -⟩ := runIds_ok hRun
  obtain ⟨ks, turns, hHeld⟩ := Bench.held_of_run hSession
  have hSelect : c.select ids = .ok ks := hHeld.select_eq
  obtain ⟨ids', hIds', hSelect'⟩ := Chooses.congr hSame ⟨ids, hIds, hSelect⟩
  rw [runIds_congr (hSelect.trans hSelect'.symm)] at hRun
  exact run_runCorpus_eq_ok_iff.mpr ⟨config, p₁, c, p₂, ids', hConfig, hCatalog, hIds', hRun⟩

/-! ## What a filter does -/

/-- **A filter narrows a run.** Values of blanks alone are no filter: with them all kinds of a
catalog are chosen. If there is another value, what is chosen are the kinds of the catalog that are
named, in its order; a corpus is emitted of their programs alone, and a run reports on them alone.
Values that say the same are as good as each other, for the choice as for the tasks. -/
theorem chosen_by_name :
    (∀ given, Blank given → ∀ c : Catalog, Chooses c given c.kinds) ∧
    (∀ given, ¬ Blank given →
      (∀ c ks, Chooses c given ks →
        ks.Sublist c.kinds ∧ ∀ k, k ∈ ks ↔ k ∈ c.kinds ∧ Names given k.id) ∧
      (∀ out config p code p', (emit out given config).run.run p = (.ok code, p') →
        ∃ ps manifest, (∀ x ∈ ps, Names given x.kind) ∧
          (Corpus.emit out ps).run.run p.host.tree = (.ok manifest, p'.host.tree)) ∧
      ∀ head o p code p', o.kinds = given → (runCorpus head o).run.run p = (.ok code, p') →
        ∃ report, (∀ v ∈ report.verdicts, Names given v.kind) ∧ code = report.exitCode ∧
          p'.stdout = p.stdout ++ o.shown report) ∧
    ∀ given other, SayTheSame given other →
      (∀ c ks, Chooses c given ks ↔ Chooses c other ks) ∧
      (∀ out config p code p', (emit out given config).run.run p = (.ok code, p') ↔
        (emit out other config).run.run p = (.ok code, p')) ∧
      ∀ head (o : RunOptions) p code p',
        (runCorpus head { o with kinds := given }).run.run p = (.ok code, p') ↔
        (runCorpus head { o with kinds := other }).run.run p = (.ok code, p') := by
  have hNames : ∀ {α : Type} {given c ks} {xs : List α} {kind : α → KindId}, ¬ Blank given →
      Chooses c given ks → xs.map kind = ks.map Kind.id → ∀ x ∈ xs, Names given (kind x) := by
    intro α given c ks xs kind hGiven hChooses hKinds x hx
    have hMem : kind x ∈ ks.map Kind.id := hKinds ▸ List.mem_map_of_mem hx
    obtain ⟨k, hk, hid⟩ := List.mem_map.mp hMem
    exact hid ▸ ((hChooses.mem_iff hGiven k).mp hk).2
  refine ⟨fun given h c => .all h, fun given hGiven => ⟨?_, ?_, ?_⟩, fun given other hSame => ?_⟩
  · intro c ks h
    exact ⟨h.sublist, h.mem_iff hGiven⟩
  · intro out config p code p' h
    obtain ⟨c, p₁, ks, hLoad, hChooses, hEmit⟩ := run_emit_eq_ok_iff.mp h
    obtain ⟨ps, manifest, hPrograms, hTree⟩ := emit_of_emitKinds hEmit
    have hHost : p₁.host = p.host := by
      refine Keeps.ok (.bind ?_ fun config => ?_) hLoad
      · exact keeps_loadConfig (fun _ _ => rfl) _
      · exact keeps_loadCatalog (fun _ _ => rfl) _
    rw [hHost] at hTree
    exact ⟨ps, manifest, hNames hGiven hChooses (map_kind_of_mapM hPrograms), hTree⟩
  · rintro head o p code p' rfl h
    obtain ⟨c, ks, report, hChooses, hKinds, hReport⟩ := runCorpus_ok h
    exact ⟨report, hNames hGiven hChooses hKinds, hReport⟩
  · exact ⟨fun c ks => ⟨.congr hSame, .congr hSame.symm⟩, fun _ _ _ _ _ => emit_congr hSame,
      fun _ _ _ _ _ => ⟨runCorpus_congr hSame, runCorpus_congr hSame.symm⟩⟩

/-- Two kinds, one of them given twice and once among blanks, and an empty value. -/
def someValues : List String := [" leak ", "", "double-free", "leak"]

theorem chosen_by_name_twice :
    ¬ Blank someValues ∧ SayTheSame someValues ["double-free", "leak"] ∧
    Chooses .builtin ["double-free", "leak"] [.builtin .doubleFree, .builtin .leak] ∧
    (∀ k, k ∈ [Kind.builtin .doubleFree, Kind.builtin .leak] ↔
      k ∈ Kind.builtins ∧ Names someValues k.id) ∧
    (∃ p', (emit "out" someValues none).run.run ⟨Bench.bareHost, "", []⟩ = (.ok 0, p') ∧
      (emit "out" ["double-free", "leak"] none).run.run ⟨Bench.bareHost, "", []⟩ = (.ok 0, p')) ∧
    ∃ (report : Report) (p' : Progress),
      (runCorpus (Bench.Request.builtins 2 none).head { kinds := someValues }).run.run
        ⟨Bench.bareHost, "", []⟩ = (.ok 2, p') ∧
      (∀ v ∈ report.verdicts, Names someValues v.kind) ∧ p'.stdout = report.text := by
  have hBlank : ¬ Blank someValues := fun h => by
    have hLeak := h " leak " (by decide)
    revert hLeak
    decide
  have hSame : SayTheSame someValues ["double-free", "leak"] := fun t => by
    have hTexts : texts someValues = ["leak", "double-free", "leak"] := by decide
    have hOther : texts ["double-free", "leak"] = ["double-free", "leak"] := by decide
    simp [hTexts, hOther, or_comm, or_left_comm]
  have hChooses : Chooses .builtin someValues [.builtin .doubleFree, .builtin .leak] :=
    ⟨[FaultClass.leak.canonicalId, FaultClass.doubleFree.canonicalId, FaultClass.leak.canonicalId],
      by decide, by decide⟩
  obtain ⟨-, hNamed, hTold⟩ := chosen_by_name
  obtain ⟨hMem, -, hReported⟩ := hNamed someValues hBlank
  obtain ⟨hOther, hEmitted, -⟩ := hTold someValues _ hSame
  refine ⟨hBlank, hSame, (hOther _ _).mp hChooses, (hMem _ _ hChooses).2, ?_, ?_⟩
  · have hOk : ((emit "out" someValues none).run.run ⟨Bench.bareHost, "", []⟩).1 = .ok 0 := by
      decide +kernel
    cases hRun : (emit "out" someValues none).run.run ⟨Bench.bareHost, "", []⟩ with
    | mk r p' =>
        rw [hRun] at hOk
        obtain rfl : r = .ok 0 := hOk
        exact ⟨p', rfl, (hEmitted _ _ _ _ _).mp hRun⟩
  · have hOk : ((runCorpus (Bench.Request.builtins 2 none).head { kinds := someValues }).run.run
        ⟨Bench.bareHost, "", []⟩).1 = .ok 2 := by
      decide +kernel
    cases hRun : (runCorpus (Bench.Request.builtins 2 none).head { kinds := someValues }).run.run
        ⟨Bench.bareHost, "", []⟩ with
    | mk r p' =>
        rw [hRun] at hOk
        obtain rfl : r = .ok 2 := hOk
        obtain ⟨report, hVerdicts, -, hShown⟩ := hReported _ _ _ _ _ rfl hRun
        exact ⟨report, p', rfl, hVerdicts, by simpa [RunOptions.shown, Report.render] using hShown⟩

/-- A comma alone is a value that is given, and it names no kind, but all are chosen. -/
theorem chosen_without_name :
    Request.ofArgs [] ["emit", "-o", "d", "-k", ","] =
      .ok ⟨false, false, .emit "d" ["", ""] none⟩ ∧
    ¬ ∀ (c : Catalog) (given : List String) (ks : List Kind), given ≠ [] → Chooses c given ks →
      ∀ k ∈ ks, Names given k.id := by
  refine ⟨by decide +kernel, fun h => ?_⟩
  have hAll : Chooses .builtin ["", ""] Kind.builtins := .all (by unfold Blank; decide)
  obtain ⟨s, hs, hLeak⟩ := h _ _ _ (by simp) hAll (.builtin .leak) (by decide)
  revert s
  decide

end FaultBench.CommandLine
