import Mathlib.Data.List.Perm.Basic
import FaultBench.Proofs.Catalog.Registry

/-!
# Requests

A request names ids in any order and as often as it likes. What it selects is told by the kinds that
are registered and by which ids it names: of the kinds, those under a named id, each once and in the
order in which they were registered (`Selects`). No other list is that (`Selects.unique`), so two
requests that name the same ids select the same list. `selected_by_request` says so of all
registries that a caller can come by.
-/

namespace FaultBench.Registry

variable {r : Registry} {requested : List KindId} {ks ks' : List Kind} {id : KindId}
  {e : SetupError}

/-- A kind is registered under the id. -/
def Has (r : Registry) (id : KindId) : Prop := ∃ k ∈ r.kinds, k.id = id

/-- The kinds are what the request selects: those under the ids that it names, or all if it names
none, in the order in which they were registered. -/
structure Selects (r : Registry) (requested : List KindId) (ks : List Kind) : Prop where
  sublist : ks.Sublist r.kinds.toList
  nodup : (ks.map Kind.id).Nodup
  mem_iff : ∀ k, k ∈ ks ↔ k ∈ r.kinds ∧ (requested = [] ∨ k.id ∈ requested)

/-- The catalog of the same kinds. -/
def Lawful.catalog (h : r.Lawful) : Catalog where
  kinds := r.kinds.toList
  nodup := h.nodup
  sound k hk := h.sound k (Array.mem_toList_iff.mp hk)

theorem Lawful.keeps (h : r.Lawful) : r.Keeps h.catalog := ⟨h, rfl⟩

theorem Lawful.has_iff (h : r.Lawful) : r.Has id ↔ id ∈ h.catalog.ids := by
  simp [Has, Catalog.ids, Lawful.catalog]

/-- The index holds the ids of the kinds that are registered, and no others. -/
theorem Lawful.isSome_position?_iff (h : r.Lawful) : (r.position? id).isSome = true ↔ r.Has id := by
  rw [Option.isSome_iff_ne_none, position?, Ne, h.index_eq_none_iff]
  simp [Has]

theorem Lawful.selects_wanted (h : r.Lawful) :
    r.Selects requested (h.catalog.wanted requested) where
  sublist := List.filter_sublist
  nodup := h.nodup.sublist (List.filter_sublist.map _)
  mem_iff k := by
    rw [Catalog.mem_wanted, ← h.keeps.mem_kinds]

/-- Lists in one order and with the same members are equal where nothing is there twice. -/
theorem Selects.unique (h : r.Lawful) (hks : r.Selects requested ks)
    (hks' : r.Selects requested ks') : ks = ks' := by
  have hNodup : r.kinds.toList.Nodup := .of_map _ h.nodup
  have hPerm : ks.Perm ks' := by
    refine (List.perm_ext_iff_of_nodup (.of_map _ hks.nodup) (.of_map _ hks'.nodup)).mpr fun k => ?_
    rw [hks.mem_iff, hks'.mem_iff]
  exact (hNodup.perm_iff_eq_of_sublist hks.sublist hks'.sublist).mp hPerm

/-- What a request selects depends on which ids it names, and not on how. -/
theorem Selects.congr {other : List KindId} (hr : requested ≠ []) (ho : other ≠ [])
    (hSame : ∀ id, id ∈ requested ↔ id ∈ other) (h : r.Selects requested ks) :
    r.Selects other ks where
  sublist := h.sublist
  nodup := h.nodup
  mem_iff k := by
    rw [h.mem_iff, hSame]
    simp [hr, ho]

theorem Lawful.select_eq_ok_iff (h : r.Lawful) :
    r.select requested = .ok ks ↔ (∀ id ∈ requested, r.Has id) ∧ r.Selects requested ks := by
  rw [h.keeps.select_eq, Catalog.select_eq_ok_iff]
  simp only [← h.has_iff]
  refine and_congr_right fun _ => ⟨?_, fun hks => hks.unique h h.selects_wanted⟩
  rintro rfl
  exact h.selects_wanted

theorem Lawful.select_eq_error_iff (h : r.Lawful) : r.select requested = .error e ↔
    ∃ before id after, requested = before ++ id :: after ∧ (∀ i ∈ before, r.Has i) ∧ ¬ r.Has id ∧
      e = .unknownKind id := by
  rw [h.keeps.select_eq, Catalog.select_eq_error_iff]
  simp only [h.has_iff]

/-- **What a request selects.** From a registry of any history, a request selects the kinds under
the ids that it names, each once and in the order in which they were registered, and all kinds if
it names none. It fails exactly if it names an id that is not registered, and for the first such
id. In which order and how often it names ids is of no account. -/
theorem selected_by_request (hr : r.Reachable) (requested : List KindId) :
    ((∃ ks, r.select requested = .ok ks) ↔ ∀ id ∈ requested, r.Has id) ∧
    (∀ e, r.select requested = .error e ↔
      ∃ before id after, requested = before ++ id :: after ∧ (∀ i ∈ before, r.Has i) ∧
        ¬ r.Has id ∧ e = .unknownKind id) ∧
    (∀ ks, r.select requested = .ok ks ↔ (∀ id ∈ requested, r.Has id) ∧ r.Selects requested ks) ∧
    (requested = [] → r.select requested = .ok r.kinds.toList) ∧
    ∀ other, requested ≠ [] → other ≠ [] → (∀ id, id ∈ requested ↔ id ∈ other) →
      ∀ ks, r.select requested = .ok ks ↔ r.select other = .ok ks := by
  have h := hr.lawful
  refine ⟨⟨?_, fun hKnown => ?_⟩, fun e => h.select_eq_error_iff, fun ks => h.select_eq_ok_iff,
    ?_, ?_⟩
  · rintro ⟨ks, hks⟩
    exact (h.select_eq_ok_iff.mp hks).1
  · exact ⟨_, h.select_eq_ok_iff.mpr ⟨hKnown, h.selects_wanted⟩⟩
  · rintro rfl
    rfl
  · intro other hRequested hOther hSame ks
    rw [h.select_eq_ok_iff, h.select_eq_ok_iff]
    simp only [hSame]
    exact and_congr_right fun _ => ⟨.congr hRequested hOther hSame,
      .congr hOther hRequested fun id => (hSame id).symm⟩

/-- The ids are named against the order of the kinds, and one of them twice. -/
theorem selected_by_request_twice :
    Registry.builtin.Reachable ∧
      Registry.builtin.select [FaultClass.leak.canonicalId, FaultClass.doubleFree.canonicalId,
        FaultClass.leak.canonicalId] = .ok [Kind.builtin .doubleFree, Kind.builtin .leak] ∧
      Registry.builtin.select [FaultClass.leak.canonicalId, lostBlock.id, blankLeak.id] =
        .error (.unknownKind lostBlock.id) := by
  have hMem : ∀ k, k ∈ Registry.builtin.kinds ↔ k ∈ Kind.builtins := fun k =>
    Keeps.builtin.mem_kinds
  have hHas : ∀ id, Registry.builtin.Has id ↔ id ∈ Kind.builtins.map Kind.id := fun id => by
    simp only [Has, hMem, List.mem_map]
  obtain ⟨-, -, hOk, -, hSame⟩ := selected_by_request .builtin
    [FaultClass.doubleFree.canonicalId, FaultClass.leak.canonicalId]
  obtain ⟨-, hError, -⟩ := selected_by_request .builtin
    [FaultClass.leak.canonicalId, lostBlock.id, blankLeak.id]
  have hTwo : Registry.builtin.Selects
      [FaultClass.doubleFree.canonicalId, FaultClass.leak.canonicalId]
      [Kind.builtin .doubleFree, Kind.builtin .leak] := by
    have hIn : ∀ k ∈ [Kind.builtin .doubleFree, Kind.builtin .leak], k ∈ Kind.builtins := by decide
    have hNamed : ∀ k ∈ Kind.builtins, k ∈ [Kind.builtin .doubleFree, Kind.builtin .leak] ↔
        k.id ∈ [FaultClass.doubleFree.canonicalId, FaultClass.leak.canonicalId] := by decide
    refine ⟨by rw [Keeps.builtin.kinds]; decide, by decide, fun k => ?_⟩
    rw [hMem, or_iff_right (List.cons_ne_nil _ _)]
    exact ⟨fun hk => ⟨hIn k hk, (hNamed k (hIn k hk)).mp hk⟩, fun hk => (hNamed k hk.1).mpr hk.2⟩
  refine ⟨.builtin, ?_, ?_⟩
  · refine (hSame _ (by simp) (by simp) (by simp [or_comm, or_left_comm]) _).mp
      ((hOk _).mpr ⟨?_, hTwo⟩)
    simp only [hHas]
    decide
  · refine (hError _).mpr ⟨[FaultClass.leak.canonicalId], lostBlock.id, [blankLeak.id], rfl, ?_, ?_,
      rfl⟩
    · simp only [hHas]
      decide
    · rw [hHas]
      decide

end FaultBench.Registry
