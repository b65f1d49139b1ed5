import FaultBench.Program.Synthesis
import FaultBench.Proofs.Config.Kinds

/-!
# Patched configurations

A patch may be laid over the variant of a kind when its program is written, or over what the
configuration sets for that kind (`Config.patched`). It makes no difference which: patches that are
laid one over the other are one patch (`VariantPatch.apply_onto`), so the patched configuration is
for the same kinds, but for the variant of the one (`Catalog.ofConfig_patched`).
`synthesize_patched` says what that means for programs.
-/

namespace FaultBench

/-! ## Patches -/

namespace VariantPatch

/-- What `p` sets, and what `q` sets besides. -/
def onto (p q : VariantPatch) : VariantPatch where
  allocSize := p.allocSize.or q.allocSize
  bufferSize := p.bufferSize.or q.bufferSize
  overflowBy := p.overflowBy.or q.overflowBy
  callDepth := p.callDepth.or q.callDepth
  leakCount := p.leakCount.or q.leakCount
  access := p.access.or q.access
  spinForever := p.spinForever.or q.spinForever

theorem apply_onto (p q : VariantPatch) (v : Variant) :
    (p.onto q).apply v = p.apply (q.apply v) := by
  simp only [onto, apply, Option.getD_or]

end VariantPatch

namespace Kind

/-- The kind with a patch over its variant, if it is the one under the id. -/
def patchedAt (id : KindId) (p : VariantPatch) (k : Kind) : Kind :=
  if k.id = id then { k with variant := p.apply k.variant } else k

variable {id : KindId} {p : VariantPatch} {k : Kind}

theorem patchedAt_of_eq (h : k.id = id) :
    k.patchedAt id p = { k with variant := p.apply k.variant } :=
  if_pos h

theorem patchedAt_of_ne (h : k.id ≠ id) : k.patchedAt id p = k :=
  if_neg h

theorem id_patchedAt : (k.patchedAt id p).id = k.id := by
  unfold patchedAt
  split <;> rfl

theorem signature_patchedAt : (k.patchedAt id p).signature = k.signature := by
  unfold patchedAt
  split <;> rfl

end Kind

namespace KindEntry

/-- The entry with a patch over what it sets, if it is the one under the id. -/
def patchedAt (id : KindId) (p : VariantPatch) (e : KindEntry) : KindEntry :=
  if e.id = id.text then { e with variant := p.onto e.variant } else e

variable {b : Bool} {id : KindId} {p : VariantPatch} {e : KindEntry}

theorem id_patchedAt : (e.patchedAt id p).id = e.id := by
  unfold patchedAt
  split <;> rfl

theorem faultClass_patchedAt : (e.patchedAt id p).faultClass = e.faultClass := by
  unfold patchedAt
  split <;> rfl

theorem base?_patchedAt : (e.patchedAt id p).base? b = e.base? b := by
  rw [base?, base?, id_patchedAt]

theorem class?_patchedAt : (e.patchedAt id p).class? = e.class? := by
  rw [class?, class?, id_patchedAt, faultClass_patchedAt]

theorem isNew_patchedAt : (e.patchedAt id p).isNew b = e.isNew b := by
  rw [isNew, isNew, base?_patchedAt]

/-- What the patched entry makes of a kind under its id is patched. -/
theorem apply_patchedAt {k : Kind} {i : KindId} (h : i.text = e.id) :
    { (e.patchedAt id p).apply k with id := i } =
      Kind.patchedAt id p { e.apply k with id := i } := by
  by_cases hid : i = id
  · subst hid
    rw [patchedAt, if_pos h.symm]
    refine Eq.trans ?_ (Kind.patchedAt_of_eq rfl).symm
    simp only [apply, VariantPatch.apply_onto]
  · have hOther : e.id ≠ id.text := fun hEq => hid (KindId.ext_text (h.trans hEq))
    rw [patchedAt, if_neg hOther, Kind.patchedAt_of_ne hid]

theorem newKind?_patchedAt :
    (e.patchedAt id p).newKind? = e.newKind?.map (Kind.patchedAt id p) := by
  cases hid : KindId.ofString e.id with
  | error flaw => simp [newKind?, KindId.ofString?, id_patchedAt, hid, Except.toOption]
  | ok i =>
      cases hClass : e.class? with
      | none => simp [newKind?, class?_patchedAt, hClass]
      | some f =>
          rw [newKind?_eq hid hClass, Option.map_some, ← apply_patchedAt (KindId.text_of_ofString hid)]
          exact newKind?_eq (by rw [id_patchedAt, hid]) (class?_patchedAt.trans hClass)

end KindEntry

/-! ## Configurations -/

namespace Config

/-- The configuration with a patch over what it sets for the kind under the id. If no entry is for
that kind, there is one more, which sets nothing else. -/
def patched (c : Config) (id : KindId) (p : VariantPatch) : Config :=
  { c with
    kinds :=
      if id.text ∈ c.kinds.map KindEntry.id then c.kinds.map (KindEntry.patchedAt id p)
      else c.kinds ++ [{ id := id.text, variant := p }] }

variable {b : Bool} {id : KindId} {p : VariantPatch} {es : List KindEntry} {c : Config}

theorem Fitting.patchedAt (h : Fitting b es) : Fitting b (es.map (KindEntry.patchedAt id p)) where
  ids := List.forall_mem_map.mpr fun e he => by
    rw [KindEntry.id_patchedAt]
    exact h.ids e he
  distinct := by
    have hIds : KindEntry.id ∘ KindEntry.patchedAt id p = KindEntry.id :=
      funext fun e => KindEntry.id_patchedAt
    rw [List.map_map, hIds]
    exact h.distinct
  sameClass := List.forall_mem_map.mpr fun e he => by
    rw [KindEntry.base?_patchedAt, KindEntry.faultClass_patchedAt]
    exact h.sameClass e he
  classed := List.forall_mem_map.mpr fun e he => by
    rw [KindEntry.base?_patchedAt, KindEntry.class?_patchedAt]
    exact h.classed e he

/-- Where an entry is for the kind under the id, its built-in kind is patched with the entry. -/
theorem builtinKind_patchedAt (hNamed : id.text ∈ es.map KindEntry.id) (f : FaultClass) :
    builtinKind (es.map (KindEntry.patchedAt id p)) f = (builtinKind es f).patchedAt id p := by
  have hSame : ((·.id == f.canonicalId.text) ∘ KindEntry.patchedAt id p) =
      (·.id == f.canonicalId.text) :=
    funext fun e => by rw [Function.comp_apply, KindEntry.id_patchedAt]
  rw [builtinKind, List.find?_map, hSame, builtinKind]
  cases hEntry : es.find? (·.id == f.canonicalId.text) with
  | some e =>
      have hid : e.id = f.canonicalId.text := by simpa using List.find?_some hEntry
      exact KindEntry.apply_patchedAt (k := .builtin f) hid.symm
  | none =>
      obtain ⟨e, he, hid⟩ := List.mem_map.mp hNamed
      have hOther : f.canonicalId ≠ id := by
        rintro rfl
        exact List.find?_eq_none.mp hEntry e he (beq_iff_eq.mpr hid)
      exact (Kind.patchedAt_of_ne hOther).symm

/-- Where an entry is for the kind under the id, patched entries describe the patched kinds. -/
theorem meant_patchedAt (hNamed : id.text ∈ es.map KindEntry.id) :
    meant b (es.map (KindEntry.patchedAt id p)) = (meant b es).map (Kind.patchedAt id p) := by
  have hOwn : builtinKind (es.map (KindEntry.patchedAt id p)) =
      Kind.patchedAt id p ∘ builtinKind es :=
    funext fun f => builtinKind_patchedAt hNamed f
  have hIsNew : (KindEntry.isNew b ∘ KindEntry.patchedAt id p) = KindEntry.isNew b :=
    funext fun e => KindEntry.isNew_patchedAt
  have hNew : KindEntry.newKind? ∘ KindEntry.patchedAt id p =
      fun e => e.newKind?.map (Kind.patchedAt id p) :=
    funext fun e => KindEntry.newKind?_patchedAt
  rw [meant, meant, List.map_append, List.filter_map, hIsNew, List.filterMap_map, hNew,
    List.map_filterMap, hOwn]
  cases b with
  | false => rfl
  | true => rw [if_pos rfl, if_pos rfl, List.map_map]

theorem Fitting.patched (h : Fitting c.builtinKinds c.kinds)
    (hid : id ∈ (meant c.builtinKinds c.kinds).map Kind.id) :
    Fitting c.builtinKinds (c.patched id p).kinds ∧
      meant c.builtinKinds (c.patched id p).kinds =
        (meant c.builtinKinds c.kinds).map (Kind.patchedAt id p) := by
  unfold Config.patched
  dsimp only
  split
  next hNamed => exact ⟨h.patchedAt, meant_patchedAt hNamed⟩
  next hFresh =>
    -- Without an entry, the kind can only be a built-in one.
    obtain ⟨k, hk, rfl⟩ := List.mem_map.mp hid
    obtain ⟨hb, f, hf, -⟩ := eq_builtin_of_mem_meant hFresh hk
    have hBase : KindEntry.base? c.builtinKinds { id := k.id.text, variant := p } = some f :=
      KindEntry.base?_eq_some_iff.mpr ⟨hb, congrArg KindId.text hf⟩
    have hAccepted : KindEntry.Accepted c.builtinKinds c.kinds
        { id := k.id.text, variant := p } := {
      id := ⟨k.id, KindId.ofString_text k.id⟩
      fresh := hFresh
      sameClass := nofun
      classed := fun hNone => by cases hNone.symm.trans hBase }
    exact ⟨fitting_append_singleton.mpr ⟨h, hAccepted⟩, (change_meant rfl hFresh hBase).symm⟩

end Config

/-! ## Catalogs -/

namespace Catalog

/-- The catalog with a patch over the variant of the kind under the id. -/
def patched (c : Catalog) (id : KindId) (p : VariantPatch) : Catalog where
  kinds := c.kinds.map (Kind.patchedAt id p)
  nodup := by
    have hIds : Kind.id ∘ Kind.patchedAt id p = Kind.id := funext fun k => Kind.id_patchedAt
    rw [List.map_map, hIds]
    exact c.nodup
  sound := List.forall_mem_map.mpr fun k hk => by
    rw [Kind.signature_patchedAt]
    exact c.sound k hk

variable {c : Config} {cat : Catalog} {id : KindId}

theorem ids_patched (cat : Catalog) (id : KindId) (p : VariantPatch) :
    (cat.patched id p).ids = cat.ids := by
  have hIds : Kind.id ∘ Kind.patchedAt id p = Kind.id := funext fun k => Kind.id_patchedAt
  rw [ids, patched, List.map_map, hIds, ids]

/-- A patched configuration is for the patched catalog. -/
theorem ofConfig_patched (h : ofConfig c = .ok cat) (hid : id ∈ cat.ids) (p : VariantPatch) :
    ofConfig (c.patched id p) = .ok (cat.patched id p) := by
  obtain ⟨hFit, hMeant⟩ := ofConfig_eq_ok_iff.mp h
  have hIn : id ∈ (Config.meant c.builtinKinds c.kinds).map Kind.id := by
    rw [hMeant]
    exact hid
  obtain ⟨hFit', hMeant'⟩ := hFit.patched (p := p) hIn
  rw [hMeant] at hMeant'
  exact ofConfig_eq_ok_iff.mpr ⟨hFit', hMeant'⟩

end Catalog

namespace Config

theorem flaw?_eq_none_iff {c : Config} : c.flaw? = none ↔
    Text.isBlankText c.toolchain.compiler.toList = false ∧ c.toolchain.timeoutSecs ≠ 0 ∧
      c.toolchain.compileTimeoutSecs ≠ 0 ∧ c.toolchain.maxOutputBytes ≠ 0 ∧
      c.pipeline.parallelism ≠ 0 ∧ (c.builtinKinds = true ∨ c.kinds ≠ []) := by
  have hStep : ∀ {p : Prop} [Decidable p] {flaw : ConfigFlaw} {rest : Option ConfigFlaw},
      (if p then some flaw else rest) = none ↔ ¬ p ∧ rest = none := by
    intro p _ flaw rest
    split <;> simp [*]
  simp only [flaw?, hStep]
  simp [Decidable.imp_iff_not_or]

theorem kinds_patched_ne_nil {c : Config} (h : c.kinds ≠ []) (id : KindId) (p : VariantPatch) :
    (c.patched id p).kinds ≠ [] := by
  unfold patched
  dsimp only
  split
  · exact fun hNil => h (List.map_eq_nil_iff.mp hNil)
  · exact List.append_ne_nil_of_left_ne_nil h _

/-- Nothing is wrong with a patched configuration that was not wrong with it before. -/
theorem flaw?_patched {c : Config} (h : c.flaw? = none) (id : KindId) (p : VariantPatch) :
    (c.patched id p).flaw? = none := by
  rw [flaw?_eq_none_iff] at h ⊢
  obtain ⟨hCompiler, hTimeout, hCompile, hOutput, hParallelism, hKinds⟩ := h
  exact ⟨hCompiler, hTimeout, hCompile, hOutput, hParallelism,
    hKinds.imp_right fun hKinds => kinds_patched_ne_nil hKinds id p⟩

/-- **Patched variants.** The program of a kind for its patched variant is its program by default in
the catalog of the patched configuration, and where the one cannot be written, the other cannot be
written for the same reason. The patched configuration has a catalog if the configuration has one, of
the same ids in the same order, and all other kinds in it are as they were. -/
theorem synthesize_patched {c : Config} {cat : Catalog} (h : Catalog.ofConfig c = .ok cat)
    {k : Kind} (hk : k ∈ cat.kinds) (p : VariantPatch) :
    ∃ cat', Catalog.ofConfig (c.patched k.id p) = .ok cat' ∧
      (∃ k', cat'.lookup k.id = .ok k' ∧
        k'.synthesizeDefault = k.synthesize (p.apply k.variant)) ∧
      cat'.ids = cat.ids ∧
      (∀ j, j.id ≠ k.id → (j ∈ cat'.kinds ↔ j ∈ cat.kinds)) ∧
      (c.flaw? = none → (c.patched k.id p).flaw? = none) := by
  have hid : k.id ∈ cat.ids := List.mem_map_of_mem hk
  refine ⟨cat.patched k.id p, Catalog.ofConfig_patched h hid p, ⟨k.patchedAt k.id p, ?_, ?_⟩,
    cat.ids_patched k.id p, fun j hj => ?_, fun hFlaw => flaw?_patched hFlaw k.id p⟩
  · exact Catalog.lookup_eq_ok_iff.mpr ⟨List.mem_map_of_mem hk, Kind.id_patchedAt⟩
  · rw [Kind.patchedAt_of_eq rfl]
    rfl
  · constructor
    · intro hMem
      obtain ⟨i, hi, rfl⟩ := List.mem_map.mp hMem
      rw [Kind.id_patchedAt] at hj
      rwa [Kind.patchedAt_of_ne hj]
    · intro hMem
      exact List.mem_map.mpr ⟨j, hMem, Kind.patchedAt_of_ne hj⟩

/-- A kind of its own with an entry, beside built-in kinds without one. -/
def layered : Config where
  kinds := [
    { id := "late-free", faultClass := some .doubleFree
      variant := { allocSize := some 8, callDepth := some 1 } }]

/-- The kind of the entry is patched to be too deep, and a built-in kind to leak once. -/
theorem synthesize_patched_layered :
    ∃ cat late, Catalog.ofConfig layered = .ok cat ∧ late ∈ cat.kinds ∧ late.id.text = "late-free" ∧
      late.variant = { allocSize := 8, callDepth := 1 } ∧
      (∃ cat' late', Catalog.ofConfig (layered.patched late.id { callDepth := some 40 }) = .ok cat' ∧
        cat'.lookup late.id = .ok late' ∧ cat'.ids = cat.ids ∧
        late'.synthesizeDefault = .error (.unsupportedVariant late.id (.tooDeep 32 40))) ∧
      Kind.builtin .leak ∈ cat.kinds ∧
      ∃ cat' leak', Catalog.ofConfig (layered.patched FaultClass.leak.canonicalId
          { leakCount := some 1 }) = .ok cat' ∧
        cat'.lookup FaultClass.leak.canonicalId = .ok leak' ∧ late ∈ cat'.kinds ∧
        leak'.synthesizeDefault = (Kind.builtin .leak).synthesize { leakCount := 1 } := by
  have hFit : Fitting layered.builtinKinds layered.kinds :=
    (kindList_eq_ok_iff.mp
      (rfl : layered.kindList = .ok (meant layered.builtinKinds layered.kinds))).1
  obtain ⟨late, hLate, hText, hVariant, hClass⟩ :
      ∃ late ∈ meant layered.builtinKinds layered.kinds, late.id.text = "late-free" ∧
        late.variant = { allocSize := 8, callDepth := 1 } ∧ late.faultClass = .doubleFree := by
    decide
  have hLeak : Kind.builtin .leak ∈ meant layered.builtinKinds layered.kinds := by decide
  let cat : Catalog := ⟨meant layered.builtinKinds layered.kinds, hFit.nodup_meant, by decide⟩
  have hCat : Catalog.ofConfig layered = .ok cat := Catalog.ofConfig_eq_ok_iff.mpr ⟨hFit, rfl⟩
  refine ⟨cat, late, hCat, hLate, hText, hVariant, ?_, hLeak, ?_⟩
  · obtain ⟨cat', hCat', ⟨late', hLookup, hProgram⟩, hIds, -⟩ :=
      synthesize_patched hCat hLate { callDepth := some 40 }
    refine ⟨cat', late', hCat', hLookup, hIds, ?_⟩
    rw [hProgram, Kind.synthesize, hVariant, hClass]
    rfl
  · obtain ⟨cat', hCat', ⟨leak', hLookup, hProgram⟩, -, hOthers, -⟩ :=
      synthesize_patched hCat hLeak { leakCount := some 1 }
    refine ⟨cat', leak', hCat', hLookup, (hOthers late ?_).mpr hLate, hProgram⟩
    intro hSame
    rw [hSame] at hText
    exact absurd hText (by decide)

end Config

end FaultBench
