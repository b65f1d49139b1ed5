import FaultBench.Proofs.Catalog.Registration
import FaultBench.Proofs.Config.Entries

/-!
# Configured kinds

Entries are taken in the order of the file, and the first one that is refused counts
(`addEntries_eq_ok_iff`, `addEntries_eq_error_iff`). The kinds that they describe are registered in
turn, and their ids are distinct, so only a signature can still be refused
(`Catalog.ofConfig_eq_ok_iff`, `Catalog.ofConfig_eq_error_iff`).

`Config.Means` says of kinds that they are those of a configuration, without a look at how they are
put together, and holds of one list (`Fitting.means_iff`). `configured_kinds` says by it what the
catalog of a configuration is, and why there is none.
-/

namespace FaultBench

namespace Config

variable {b : Bool} {es es' before after : List KindEntry} {e : KindEntry} {seen : List KindId}
  {ks : List Kind} {error : SetupError}

/-! ## Entries in turn -/

/-- Nothing is wrong with any of the entries. -/
structure Fitting (builtins : Bool) (es : List KindEntry) : Prop where
  ids : ∀ e ∈ es, ∃ id, KindId.ofString e.id = .ok id
  distinct : (es.map KindEntry.id).Nodup
  sameClass : ∀ e ∈ es, ∀ f g, e.base? builtins = some f → e.faultClass = some g → g = f
  classed : ∀ e ∈ es, e.base? builtins = none → e.class? ≠ none

/-- One of the entries is refused, and none of those before it is. -/
def FirstRefused (builtins : Bool) (es : List KindEntry) (error : SetupError) : Prop :=
  ∃ before e after, es = before ++ e :: after ∧ Fitting builtins before ∧
    e.Refused builtins before error

theorem Fitting.nil : Fitting b [] := by
  constructor <;> simp

theorem fitting_append_singleton :
    Fitting b (before ++ [e]) ↔ Fitting b before ∧ e.Accepted b before := by
  constructor
  · rintro ⟨hIds, hDistinct, hSame, hClassed⟩
    simp only [List.forall_mem_append, List.forall_mem_singleton] at hIds hSame hClassed
    rw [List.map_append, List.nodup_append] at hDistinct
    refine ⟨⟨hIds.1, hDistinct.1, hSame.1, hClassed.1⟩, hIds.2, ?_, hSame.2, hClassed.2⟩
    exact fun hTaken => hDistinct.2.2 e.id hTaken e.id (by simp) rfl
  · rintro ⟨hFit, hAccepted⟩
    refine ⟨?_, ?_, ?_, ?_⟩
    · exact List.forall_mem_append.mpr ⟨hFit.ids, List.forall_mem_singleton.mpr hAccepted.id⟩
    · rw [List.map_append, List.nodup_append]
      refine ⟨hFit.distinct, by simp, ?_⟩
      rintro id hid _ hLast rfl
      obtain rfl : id = e.id := by simpa using hLast
      exact hAccepted.fresh hid
    · exact List.forall_mem_append.mpr
        ⟨hFit.sameClass, List.forall_mem_singleton.mpr hAccepted.sameClass⟩
    · exact List.forall_mem_append.mpr
        ⟨hFit.classed, List.forall_mem_singleton.mpr hAccepted.classed⟩

theorem Fitting.of_append (h : Fitting b (before ++ after)) : Fitting b before where
  ids e he := h.ids e (List.mem_append_left _ he)
  distinct := by
    have hDistinct := h.distinct
    rw [List.map_append] at hDistinct
    exact hDistinct.of_append_left
  sameClass e he := h.sameClass e (List.mem_append_left _ he)
  classed e he := h.classed e (List.mem_append_left _ he)

/-- Up to any entry, fitting entries are not refused. -/
theorem Fitting.accepted (h : Fitting b (before ++ e :: after)) : e.Accepted b before := by
  rw [List.append_cons] at h
  exact (fitting_append_singleton.mp h.of_append).2

/-- What `addEntries` keeps of the entries that it has taken are their ids. -/
def Seen (seen : List KindId) (before : List KindEntry) : Prop :=
  ∀ id : KindId, id ∈ seen ↔ id.text ∈ before.map KindEntry.id

theorem Seen.append {id : KindId} (h : Seen seen before) (hid : id.text = e.id) :
    Seen (id :: seen) (before ++ [e]) := by
  intro id'
  have hEq : id' = id ↔ id'.text = e.id :=
    ⟨fun h => h ▸ hid, fun h => KindId.ext_text (h.trans hid.symm)⟩
  simp [h id', hEq, or_comm]

theorem addEntries_of_accepted (hSeen : Seen seen before) (h : e.Accepted b before) :
    ∃ seen', Seen seen' (before ++ [e]) ∧ ∀ es,
      addEntries seen (meant b before) (e :: es) =
        addEntries seen' (meant b (before ++ [e])) es := by
  obtain ⟨id, hid⟩ := h.id
  have hText := KindId.text_of_ofString hid
  have hNot : id ∉ seen := by
    rw [hSeen, hText]
    exact h.fresh
  refine ⟨id :: seen, hSeen.append hText, fun es => ?_⟩
  simp [addEntries, SetupError.kindId, hid, Except.mapError, hNot,
    KindEntry.addTo_of_accepted h hid, bind, Except.bind]

theorem addEntries_of_refused (hSeen : Seen seen before) (h : e.Refused b before error)
    (es : List KindEntry) : addEntries seen (meant b before) (e :: es) = .error error := by
  cases hid : KindId.ofString e.id with
  | error flaw =>
      rcases h with hid' | ⟨hid', -⟩ | ⟨hid', -⟩ | ⟨hid', -⟩ <;> cases hid.symm.trans hid'
      simp [addEntries, SetupError.kindId, hid, Except.mapError, bind, Except.bind]
  | ok id =>
      have hText := KindId.text_of_ofString hid
      by_cases hTaken : e.id ∈ before.map KindEntry.id
      · have hMem : id ∈ seen := by
          rw [hSeen, hText]
          exact hTaken
        rcases h with hid' | ⟨hid', -⟩ | ⟨-, hFresh, -⟩ | ⟨-, hFresh, -⟩
        · cases hid.symm.trans hid'
        · obtain rfl := Except.ok.inj (hid.symm.trans hid')
          simp [addEntries, SetupError.kindId, hid, Except.mapError, hMem, bind, Except.bind]
        · exact absurd hTaken hFresh
        · exact absurd hTaken hFresh
      · have hNot : id ∉ seen := by
          rw [hSeen, hText]
          exact hTaken
        simp [addEntries, SetupError.kindId, hid, Except.mapError, hNot,
          KindEntry.addTo_of_refused h hid hTaken, bind, Except.bind]

/-- Entries are taken if none of them is refused, and then the kinds are those that they describe.
-/
theorem addEntries_eq_ok_iff (hSeen : Seen seen before) (hFit : Fitting b before) :
    addEntries seen (meant b before) es = .ok ks ↔
      Fitting b (before ++ es) ∧ meant b (before ++ es) = ks := by
  induction es generalizing before seen with
  | nil => simp [addEntries, hFit]
  | cons e es ih =>
      rcases KindEntry.accepted_or_refused b before e with h | ⟨error, h⟩
      · obtain ⟨seen', hSeen', hStep⟩ := addEntries_of_accepted hSeen h
        rw [hStep es, ih hSeen' (fitting_append_singleton.mpr ⟨hFit, h⟩), ← List.append_cons]
      · rw [addEntries_of_refused hSeen h es]
        refine iff_of_false (by simp) fun hAll => ?_
        exact hAll.1.accepted.not_refused error h

/-- Otherwise the error is that of the first entry that is refused. -/
theorem addEntries_eq_error_iff (hSeen : Seen seen before) (hFit : Fitting b before) :
    addEntries seen (meant b before) es = .error error ↔
      ∃ mid e after, es = mid ++ e :: after ∧ Fitting b (before ++ mid) ∧
        e.Refused b (before ++ mid) error := by
  induction es generalizing before seen with
  | nil => simp [addEntries]
  | cons e es ih =>
      rcases KindEntry.accepted_or_refused b before e with h | ⟨error', h⟩
      · obtain ⟨seen', hSeen', hStep⟩ := addEntries_of_accepted hSeen h
        rw [hStep es, ih hSeen' (fitting_append_singleton.mpr ⟨hFit, h⟩)]
        constructor
        · rintro ⟨mid, e', after, rfl, hMid, hRefused⟩
          rw [← List.append_cons] at hMid hRefused
          exact ⟨e :: mid, e', after, rfl, hMid, hRefused⟩
        · rintro ⟨mid, e', after, hSplit, hMid, hRefused⟩
          cases mid with
          | nil =>
              obtain ⟨rfl, rfl⟩ := List.cons.inj hSplit
              rw [List.append_nil] at hRefused
              exact absurd hRefused (h.not_refused error)
          | cons m mid =>
              obtain ⟨rfl, rfl⟩ := List.cons.inj hSplit
              rw [List.append_cons] at hMid hRefused
              exact ⟨mid, e', after, rfl, hMid, hRefused⟩
      · rw [addEntries_of_refused hSeen h es]
        constructor
        · intro hError
          obtain rfl := Except.error.inj hError
          exact ⟨[], e, es, rfl, by simpa using hFit, by simpa using h⟩
        · rintro ⟨mid, e', after, hSplit, hMid, hRefused⟩
          cases mid with
          | nil =>
              obtain ⟨rfl, rfl⟩ := List.cons.inj hSplit
              rw [List.append_nil] at hRefused
              rw [← addEntries_of_refused hSeen h es, addEntries_of_refused hSeen hRefused es]
          | cons m mid =>
              obtain ⟨rfl, rfl⟩ := List.cons.inj hSplit
              exact absurd h (hMid.accepted.not_refused error')

theorem meant_nil : meant b [] = if b then Kind.builtins else [] := by
  cases b <;> rfl

theorem seen_nil : Seen [] [] := by
  simp [Seen]

theorem kindList_eq_ok_iff {c : Config} : c.kindList = .ok ks ↔
    Fitting c.builtinKinds c.kinds ∧ meant c.builtinKinds c.kinds = ks := by
  rw [kindList, ← meant_nil, addEntries_eq_ok_iff seen_nil .nil, List.nil_append]

theorem kindList_eq_error_iff {c : Config} :
    c.kindList = .error error ↔ FirstRefused c.builtinKinds c.kinds error := by
  rw [kindList, ← meant_nil, addEntries_eq_error_iff seen_nil .nil]
  rfl

/-! ## The kinds that are described -/

/-- A fitting entry that changes no built-in kind describes a kind of its class. -/
theorem Fitting.exists_newKind? (h : Fitting b es) (he : e ∈ es) (hBase : e.base? b = none) :
    ∃ id f, KindId.ofString e.id = .ok id ∧ e.class? = some f ∧
      e.newKind? = some { e.apply (.builtin f) with id := id } := by
  obtain ⟨id, hid⟩ := h.ids e he
  obtain ⟨f, hf⟩ := Option.ne_none_iff_exists'.mp (h.classed e he hBase)
  exact ⟨id, f, hid, hf, KindEntry.newKind?_eq hid hf⟩

/-- The built-in ids, if there are any, and then those of the entries that change no built-in kind.
-/
theorem Fitting.ids_meant (h : Fitting b es) : (meant b es).map (·.id.text) =
    (if b then FaultClass.all.map (·.canonicalId.text) else []) ++
      (es.filter (·.isNew b)).map KindEntry.id := by
  have hNew : ((es.filter (·.isNew b)).filterMap KindEntry.newKind?).map (·.id.text) =
      (es.filter (·.isNew b)).map KindEntry.id := by
    rw [List.map_filterMap, ← List.filterMap_eq_map]
    refine List.filterMap_congr fun e he => ?_
    obtain ⟨hMem, hIsNew⟩ := List.mem_filter.mp he
    obtain ⟨id, f, hid, -, hKind⟩ := h.exists_newKind? hMem (KindEntry.isNew_iff.mp hIsNew)
    rw [hKind, Option.map_some, KindId.text_of_ofString hid, Function.comp_apply]
  have hOwn : FaultClass.all.map (fun f => (builtinKind es f).id.text) =
      FaultClass.all.map (·.canonicalId.text) :=
    List.map_congr_left fun f _ => by rw [builtinKind_id]
  rw [meant, List.map_append, hNew]
  cases b with
  | false => rfl
  | true =>
      rw [if_pos rfl, if_pos rfl, List.map_map, ← hOwn]
      rfl

theorem Fitting.nodup_meant_texts (h : Fitting b es) : ((meant b es).map (·.id.text)).Nodup := by
  rw [h.ids_meant, List.nodup_append]
  refine ⟨?_, h.distinct.sublist (List.filter_sublist.map _), ?_⟩
  · cases b <;> decide
  · rintro s hOwn s' hNew rfl
    obtain ⟨e, he, rfl⟩ := List.mem_map.mp hNew
    have hBase := KindEntry.isNew_iff.mp (List.mem_filter.mp he).2
    cases b with
    | false => cases hOwn
    | true =>
        obtain ⟨f, -, hf⟩ := List.mem_map.mp hOwn
        cases hBase.symm.trans (KindEntry.base?_eq_some_iff.mpr ⟨rfl, hf⟩)

theorem Fitting.nodup_meant (h : Fitting b es) : ((meant b es).map Kind.id).Nodup := by
  have hTexts := h.nodup_meant_texts
  have hMap : (meant b es).map (·.id.text) = ((meant b es).map Kind.id).map KindId.text := by
    rw [List.map_map]
    rfl
  rw [hMap] at hTexts
  exact hTexts.of_map

/-- Of entries under distinct ids, the one under an id is found whatever their order. -/
theorem find?_eq_some_iff {s : String} (h : (es.map KindEntry.id).Nodup) :
    es.find? (·.id == s) = some e ↔ e ∈ es ∧ e.id = s := by
  have hFound : ∀ {e'}, es.find? (·.id == s) = some e' → e' ∈ es ∧ e'.id = s := fun hFind =>
    ⟨List.mem_of_find?_eq_some hFind, by simpa using List.find?_some hFind⟩
  refine ⟨hFound, ?_⟩
  rintro ⟨he, rfl⟩
  have hSome : (es.find? (·.id == e.id)).isSome = true :=
    List.find?_isSome.mpr ⟨e, he, beq_self_eq_true e.id⟩
  obtain ⟨e', hFind⟩ := Option.isSome_iff_exists.mp hSome
  obtain ⟨he', hid⟩ := hFound hFind
  rw [hFind, List.inj_on_of_nodup_map h he' he hid]

/-- Lists with the same distinct keys are the same if one holds all of the other. -/
theorem eq_of_map_eq {α β : Type} {key : α → β} {xs ys : List α} (h : xs.map key = ys.map key)
    (hNodup : (ys.map key).Nodup) (hMem : ∀ x ∈ xs, x ∈ ys) : xs = ys := by
  refine List.ext_getElem (by simpa using congrArg List.length h) fun i hx hy => ?_
  refine List.inj_on_of_nodup_map hNodup (hMem _ (List.getElem_mem hx)) (List.getElem_mem hy) ?_
  simpa [hx, hy] using congrArg (·[i]?) h

/-- Where the entries that change built-in kinds stand does not matter. -/
theorem meant_eq_of_perm (h : (es.map KindEntry.id).Nodup) (hPerm : es'.Perm es)
    (hNew : es'.filter (·.isNew b) = es.filter (·.isNew b)) : meant b es' = meant b es := by
  have hFind : ∀ s : String, es'.find? (·.id == s) = es.find? (·.id == s) := by
    intro s
    ext e
    rw [find?_eq_some_iff h, find?_eq_some_iff ((hPerm.map _).nodup_iff.mpr h), hPerm.mem_iff]
  have hOwn : builtinKind es' = builtinKind es := by
    funext f
    rw [builtinKind, builtinKind, hFind]
  rw [meant, meant, hNew, hOwn]

theorem fitting_perm (hPerm : es'.Perm es) : Fitting b es' ↔ Fitting b es := by
  have hOne : ∀ {xs ys : List KindEntry}, xs.Perm ys → Fitting b ys → Fitting b xs :=
    fun hPerm h => {
      ids := fun e he => h.ids e (hPerm.mem_iff.mp he)
      distinct := (hPerm.map _).nodup_iff.mpr h.distinct
      sameClass := fun e he => h.sameClass e (hPerm.mem_iff.mp he)
      classed := fun e he => h.classed e (hPerm.mem_iff.mp he) }
  exact ⟨hOne hPerm.symm, hOne hPerm⟩

/-! ## The meaning of a configuration -/

/-- The kinds `ks` are those that a configuration is for. The built-in kinds, if there are any,
come first, and then those of the other entries. A built-in kind is as it was, but for what an
entry under its id sets; a kind of its own is that of its class, but for its id and what its entry
sets. -/
structure Means (c : Config) (ks : List Kind) : Prop where
  ids : ks.map (·.id.text) =
    (if c.builtinKinds then FaultClass.all.map (·.canonicalId.text) else []) ++
      (c.kinds.filter (·.isNew c.builtinKinds)).map KindEntry.id
  unnamed : c.builtinKinds = true → ∀ f : FaultClass,
    f.canonicalId.text ∉ c.kinds.map KindEntry.id → Kind.builtin f ∈ ks
  changed : ∀ e ∈ c.kinds, ∀ f, e.base? c.builtinKinds = some f →
    ∃ k ∈ ks, k.id = f.canonicalId ∧ e.Shapes (.builtin f) k
  added : ∀ e ∈ c.kinds, e.base? c.builtinKinds = none →
    ∃ f, e.class? = some f ∧ ∃ k ∈ ks, k.id.text = e.id ∧ e.Shapes (.builtin f) k

/-- The first of the kinds `ks` whose signature cannot be looked for is refused with `error`. -/
def FirstFlawed (ks : List Kind) (error : SetupError) : Prop :=
  ∃ before k after flaw, ks = before ++ k :: after ∧
    (∀ j ∈ before, j.signature.flaw? = none) ∧ k.signature.flaw? = some flaw ∧
    error = .invalidSignature k.id flaw

variable {c : Config}

theorem Fitting.means (h : Fitting c.builtinKinds c.kinds) :
    c.Means (meant c.builtinKinds c.kinds) where
  ids := h.ids_meant
  unnamed hb f hf := mem_meant.mpr (.inl ⟨hb, f, builtinKind_of_unnamed hf⟩)
  changed e he f hBase := by
    obtain ⟨hb, hf⟩ := KindEntry.base?_eq_some_iff.mp hBase
    have hKind : builtinKind c.kinds f = e.apply (.builtin f) := by
      rw [builtinKind, hf, (find?_eq_some_iff h.distinct).mpr ⟨he, rfl⟩]
    exact ⟨_, mem_meant.mpr (.inl ⟨hb, f, hKind⟩), rfl, e.shapes_apply (.builtin f) _⟩
  added e he hBase := by
    obtain ⟨id, f, hid, hf, hKind⟩ := h.exists_newKind? he hBase
    exact ⟨f, hf, _, mem_meant.mpr (.inr ⟨e, he, hBase, hKind⟩), KindId.text_of_ofString hid,
      e.shapes_apply (.builtin f) id⟩

/-- The kinds that entries describe are among those that the configuration is for. -/
theorem Means.mem_of_mem_meant {k : Kind} (h : c.Means ks)
    (hk : k ∈ meant c.builtinKinds c.kinds) : k ∈ ks := by
  rcases mem_meant.mp hk with ⟨hb, f, rfl⟩ | ⟨e, he, hBase, hKind⟩
  · unfold builtinKind
    split
    next e hFind =>
      have he : e ∈ c.kinds := List.mem_of_find?_eq_some hFind
      have hid : e.id = f.canonicalId.text := by simpa using List.find?_some hFind
      obtain ⟨k, hk, hkid, hShapes⟩ :=
        h.changed e he f (KindEntry.base?_eq_some_iff.mpr ⟨hb, hid.symm⟩)
      rwa [hShapes.eq hkid] at hk
    next hFind =>
      refine h.unnamed hb f fun hNamed => ?_
      obtain ⟨e, he, hid⟩ := List.mem_map.mp hNamed
      simpa [hid] using List.find?_eq_none.mp hFind e he
  · obtain ⟨f, hf, k', hk', hid, hShapes⟩ := h.added e he hBase
    obtain ⟨id, hidOk, rfl⟩ := KindEntry.newKind?_eq_some hf hKind
    rwa [hShapes.eq (KindId.ext_text (hid.trans (KindId.text_of_ofString hidOk).symm))] at hk'

theorem Fitting.means_iff (h : Fitting c.builtinKinds c.kinds) :
    c.Means ks ↔ ks = meant c.builtinKinds c.kinds := by
  constructor
  · intro hMeans
    have hNodup : (ks.map (·.id.text)).Nodup := by
      rw [hMeans.ids, ← h.ids_meant]
      exact h.nodup_meant_texts
    exact (eq_of_map_eq (h.ids_meant.trans hMeans.ids.symm) hNodup
      fun k => hMeans.mem_of_mem_meant).symm
  · rintro rfl
    exact h.means

end Config

/-! ## The catalog of a configuration -/

namespace Catalog

variable {c : Config} {cat : Catalog} {error : SetupError}

theorem ofConfig_eq_ok_iff : ofConfig c = .ok cat ↔
    Config.Fitting c.builtinKinds c.kinds ∧ Config.meant c.builtinKinds c.kinds = cat.kinds := by
  rw [ofConfig, bind_eq_ok_iff]
  simp only [Config.kindList_eq_ok_iff, registerAll_eq_ok_iff]
  constructor
  · rintro ⟨ks, ⟨hFit, rfl⟩, hKinds⟩
    exact ⟨hFit, hKinds.symm⟩
  · rintro ⟨hFit, hMeant⟩
    exact ⟨cat.kinds, ⟨hFit, hMeant⟩, rfl⟩

/-- Kinds under distinct ids are refused for the first signature that cannot be looked for. -/
theorem registerAll_empty_eq_error_iff {ks : List Kind} (h : (ks.map Kind.id).Nodup) :
    Catalog.empty.registerAll ks = .error error ↔ Config.FirstFlawed ks error := by
  rw [registerAll_eq_error_iff]
  constructor
  · rintro ⟨before, k, after, m, rfl, hBefore, hError⟩
    have hKinds : m.kinds = before := registerAll_eq_ok_iff.mp hBefore
    rcases register_eq_error_iff.mp hError with ⟨hTaken, -⟩ | ⟨-, flaw, hFlaw, rfl⟩
    · rw [List.map_append, List.nodup_append] at h
      have hMem : k.id ∈ before.map Kind.id := hKinds ▸ hTaken
      exact absurd rfl (h.2.2 k.id hMem k.id (by simp))
    · exact ⟨before, k, after, flaw, rfl, hKinds ▸ m.sound, hFlaw, rfl⟩
  · rintro ⟨before, k, after, flaw, rfl, hBefore, hFlaw, rfl⟩
    rw [List.map_append, List.nodup_append] at h
    let m : Catalog := ⟨before, h.1, hBefore⟩
    have hFree : k.id ∉ m.ids := fun hTaken => h.2.2 k.id hTaken k.id (by simp) rfl
    exact ⟨before, k, after, m, rfl, registerAll_eq_ok_iff.mpr rfl,
      register_eq_error_iff.mpr (.inr ⟨hFree, flaw, hFlaw, rfl⟩)⟩

theorem ofConfig_eq_error_iff : ofConfig c = .error error ↔
    Config.FirstRefused c.builtinKinds c.kinds error ∨
      Config.Fitting c.builtinKinds c.kinds ∧
        Config.FirstFlawed (Config.meant c.builtinKinds c.kinds) error := by
  rw [ofConfig, bind_eq_error_iff, Config.kindList_eq_error_iff]
  refine or_congr_right ?_
  simp only [Config.kindList_eq_ok_iff]
  constructor
  · rintro ⟨ks, ⟨hFit, rfl⟩, hError⟩
    exact ⟨hFit, (registerAll_empty_eq_error_iff hFit.nodup_meant).mp hError⟩
  · rintro ⟨hFit, hFlawed⟩
    exact ⟨_, ⟨hFit, rfl⟩, (registerAll_empty_eq_error_iff hFit.nodup_meant).mpr hFlawed⟩

/-- The order of the entries counts for those only that change no built-in kind. -/
theorem ofConfig_perm {es : List KindEntry} (hPerm : es.Perm c.kinds)
    (hNew : es.filter (·.isNew c.builtinKinds) = c.kinds.filter (·.isNew c.builtinKinds)) :
    ofConfig { c with kinds := es } = .ok cat ↔ ofConfig c = .ok cat := by
  rw [ofConfig_eq_ok_iff, ofConfig_eq_ok_iff]
  constructor
  · rintro ⟨hFit, hMeant⟩
    have hFit' := (Config.fitting_perm hPerm).mp hFit
    exact ⟨hFit', (Config.meant_eq_of_perm hFit'.distinct hPerm hNew).symm.trans hMeant⟩
  · rintro ⟨hFit, hMeant⟩
    exact ⟨(Config.fitting_perm hPerm).mpr hFit,
      (Config.meant_eq_of_perm hFit.distinct hPerm hNew).trans hMeant⟩

end Catalog

namespace Config

/-- **The kinds of a configuration.** Fitting entries are for one list of kinds. The configuration
has a catalog if its entries fit and the signatures of those kinds can be looked for, and then they
are the kinds of the catalog, wherever the entries that change built-in kinds stand. Otherwise the
first entry that is refused counts, and if there is none, the first kind whose signature cannot be
looked for. -/
theorem configured_kinds (c : Config) :
    (Fitting c.builtinKinds c.kinds → ∃! ks, c.Means ks) ∧
    ((∃ cat, Catalog.ofConfig c = .ok cat) ↔ Fitting c.builtinKinds c.kinds ∧
      ∀ ks, c.Means ks → ∀ k ∈ ks, k.signature.flaw? = none) ∧
    (∀ cat, Catalog.ofConfig c = .ok cat → c.Means cat.kinds) ∧
    (∀ es : List KindEntry, es.Perm c.kinds →
      es.filter (·.isNew c.builtinKinds) = c.kinds.filter (·.isNew c.builtinKinds) →
      ∀ cat, Catalog.ofConfig { c with kinds := es } = .ok cat ↔ Catalog.ofConfig c = .ok cat) ∧
    ∀ error, Catalog.ofConfig c = .error error ↔
      FirstRefused c.builtinKinds c.kinds error ∨
        Fitting c.builtinKinds c.kinds ∧ ∃ ks, c.Means ks ∧ FirstFlawed ks error := by
  refine ⟨fun hFit => ?_, ?_, fun cat hOk => ?_, fun es hPerm hNew cat => ?_, fun error => ?_⟩
  · exact ⟨_, hFit.means, fun ks hMeans => hFit.means_iff.mp hMeans⟩
  · simp only [Catalog.ofConfig_eq_ok_iff]
    constructor
    · rintro ⟨cat, hFit, hMeant⟩
      refine ⟨hFit, fun ks hMeans => ?_⟩
      rw [hFit.means_iff.mp hMeans, hMeant]
      exact cat.sound
    · rintro ⟨hFit, hSound⟩
      exact ⟨⟨_, hFit.nodup_meant, hSound _ hFit.means⟩, hFit, rfl⟩
  · obtain ⟨hFit, hMeant⟩ := Catalog.ofConfig_eq_ok_iff.mp hOk
    exact hFit.means_iff.mpr hMeant.symm
  · exact Catalog.ofConfig_perm hPerm hNew
  · rw [Catalog.ofConfig_eq_error_iff]
    refine or_congr_right (and_congr_right fun hFit => ?_)
    simp only [hFit.means_iff, exists_eq_left]

/-- Changes to two built-in kinds, and a kind of its own between them. -/
def mixed : Config where
  kinds := [{ id := "leak", signature := some "lost" },
    { id := "late-free", faultClass := some .doubleFree, matchMode := some .regex },
    { id := "null-deref", faultClass := some .nullDeref, variant := { access := some .read } }]

theorem configured_kinds_mixed :
    (∃ cat, Catalog.ofConfig mixed = .ok cat ∧ cat.kinds.length = 6) ∧
      ∀ cat, Catalog.ofConfig { mixed with kinds := mixed.kinds.reverse } = .ok cat ↔
        Catalog.ofConfig mixed = .ok cat := by
  obtain ⟨hOne, hOk, hMeans, hPerm, -⟩ := configured_kinds mixed
  have hFit : Fitting mixed.builtinKinds mixed.kinds :=
    (kindList_eq_ok_iff.mp (rfl : mixed.kindList = .ok (meant mixed.builtinKinds mixed.kinds))).1
  have hSound : ∀ k ∈ meant mixed.builtinKinds mixed.kinds, k.signature.flaw? = none := by decide
  refine ⟨?_, hPerm _ (List.reverse_perm _) rfl⟩
  obtain ⟨cat, hCat⟩ := hOk.mpr ⟨hFit, fun ks hKs => (hOne hFit).unique hKs hFit.means ▸ hSound⟩
  refine ⟨cat, hCat, ?_⟩
  rw [(hOne hFit).unique (hMeans cat hCat) hFit.means]
  rfl

end Config

end FaultBench
