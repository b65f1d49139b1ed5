import FaultBench.Catalog
import FaultBench.Proofs.Fallible

/-!
# Selections

`Catalog.select` gives the requested kinds, or all if none is requested, each once and in the order
of the catalog (`select_eq_ok_iff`). It fails for the first of the requested ids that the catalog does
not have (`select_eq_error_iff`).
-/

namespace FaultBench.Catalog

variable {c : Catalog} {requested : List KindId} {selection : List Kind} {id : KindId} {k : Kind}
  {e : SetupError}

theorem lookup_eq_error_iff : c.lookup id = .error e ↔ id ∉ c.ids ∧ e = .unknownKind id := by
  unfold lookup
  split
  next k hFind =>
    have hMem : id ∈ c.ids := by
      refine List.mem_map.mpr ⟨k, List.mem_of_find?_eq_some hFind, ?_⟩
      simpa using List.find?_some hFind
    simp [hMem]
  next hFind =>
    have hNot : id ∉ c.ids := by
      intro hMem
      obtain ⟨k, hk, rfl⟩ := List.mem_map.mp hMem
      simpa using List.find?_eq_none.mp hFind k hk
    simp [hNot, eq_comm]

theorem exists_lookup_iff : (∃ k, c.lookup id = .ok k) ↔ id ∈ c.ids := by
  cases hLookup : c.lookup id with
  | ok k =>
      have hMem : id ∈ c.ids := by
        refine Decidable.byContradiction fun hNot => ?_
        have hError := lookup_eq_error_iff.mpr ⟨hNot, rfl⟩
        cases hLookup.symm.trans hError
      simp [hMem]
  | error e => simp [(lookup_eq_error_iff.mp hLookup).1]

/-- The requested kinds that the catalog has, or all if none is requested. -/
def wanted (c : Catalog) (requested : List KindId) : List Kind :=
  c.kinds.filter fun k => requested.isEmpty || requested.contains k.id

theorem mem_wanted : k ∈ c.wanted requested ↔ k ∈ c.kinds ∧ (requested = [] ∨ k.id ∈ requested) := by
  simp [wanted, List.mem_filter]

/-- Whether a step for a requested id succeeds. -/
theorem discard_lookup_eq_error_iff :
    discard (c.lookup id) = .error e ↔ id ∉ c.ids ∧ e = .unknownKind id := by
  rw [← lookup_eq_error_iff]
  cases c.lookup id <;> simp [discard, Functor.discard, Functor.mapConst, Except.map]

theorem exists_discard_lookup_iff : (∃ u, discard (c.lookup id) = .ok u) ↔ id ∈ c.ids := by
  rw [← exists_lookup_iff]
  cases c.lookup id <;> simp [discard, Functor.discard, Functor.mapConst, Except.map]

theorem select_eq (hr : requested ≠ []) : c.select requested =
    (requested.forM fun id => discard (c.lookup id)) >>= fun _ => .ok (c.wanted requested) := by
  have hEmpty : requested.isEmpty = false := by simpa using hr
  simp only [select, wanted, hEmpty, Bool.false_or]
  rfl

theorem select_eq_error_iff_firstFails :
    c.select requested = .error e ↔ FirstFails (fun id => discard (c.lookup id)) requested e := by
  by_cases hr : requested = []
  · subst hr
    simp [select, FirstFails]
  · rw [select_eq hr, bind_eq_error_iff, forM_eq_error_iff]
    simp

/-- A selection fails for the first of the requested ids that the catalog does not have. -/
theorem select_eq_error_iff : c.select requested = .error e ↔
    ∃ before id after, requested = before ++ id :: after ∧ (∀ i ∈ before, i ∈ c.ids) ∧
      id ∉ c.ids ∧ e = .unknownKind id := by
  rw [select_eq_error_iff_firstFails]
  simp only [FirstFails, discard_lookup_eq_error_iff, exists_discard_lookup_iff]

theorem exists_select_error_iff :
    (∃ e, c.select requested = .error e) ↔ ∃ id ∈ requested, id ∉ c.ids := by
  simp only [select_eq_error_iff_firstFails, exists_firstFails_iff, discard_lookup_eq_error_iff,
    exists_and_left, exists_eq, and_true]

/-- A selection that succeeds is what is wanted. -/
theorem select_eq_ok_iff : c.select requested = .ok selection ↔
    (∀ id ∈ requested, id ∈ c.ids) ∧ selection = c.wanted requested := by
  have hKnown : (∃ e, c.select requested = .error e) ↔ ∃ id ∈ requested, id ∉ c.ids :=
    exists_select_error_iff
  have hWanted : ∀ s, c.select requested = .ok s → s = c.wanted requested := by
    intro s h
    by_cases hr : requested = []
    · subst hr
      obtain rfl : c.kinds = s := Except.ok.inj h
      exact (List.filter_eq_self.mpr fun _ _ => rfl).symm
    · rw [select_eq hr, bind_eq_ok_iff] at h
      obtain ⟨-, -, hOk⟩ := h
      exact (Except.ok.inj hOk).symm
  cases hSelect : c.select requested with
  | error e =>
      obtain ⟨id, hid, hNot⟩ := hKnown.mp ⟨e, hSelect⟩
      constructor
      · intro h
        cases h
      · intro h
        exact absurd (h.1 id hid) hNot
  | ok s =>
      have hAll : ∀ id ∈ requested, id ∈ c.ids := by
        intro id hid
        refine Decidable.byContradiction fun hNot => ?_
        obtain ⟨e, he⟩ := hKnown.mpr ⟨id, hid, hNot⟩
        cases hSelect.symm.trans he
      rw [hWanted s hSelect, Except.ok.injEq, eq_comm]
      exact (and_iff_right hAll).symm

theorem select_sublist (h : c.select requested = .ok selection) : selection.Sublist c.kinds := by
  rw [(select_eq_ok_iff.mp h).2]
  exact List.filter_sublist

theorem select_nodup (h : c.select requested = .ok selection) : (selection.map Kind.id).Nodup :=
  c.nodup.sublist ((select_sublist h).map _)

end FaultBench.Catalog
