import Mathlib.Data.List.Nodup
import FaultBench.Proofs.Catalog.Selection

/-!
# Registration

`Catalog.register` puts a kind behind all others, or says why it does not: the id is taken, or else
the signature cannot be looked for (`register_eq_error_iff`). As a catalog is told by its kinds
alone (`eq_of_kinds`), it succeeds exactly if there is a catalog of the kinds with the new one
behind them (`register_eq_ok_iff`), and the same holds of kinds that are registered in turn
(`registerAll_eq_ok_iff`, `registerAll_eq_error_iff`).
-/

namespace FaultBench.Catalog

variable {c c' : Catalog} {k : Kind} {ks : List Kind} {id : KindId} {e : SetupError}

theorem eq_of_kinds (h : c.kinds = c'.kinds) : c = c' := by
  cases c
  cases c'
  cases h
  rfl

/-! ## One kind -/

theorem register_eq_error_iff : c.register k = .error e ↔
    (k.id ∈ c.ids ∧ e = .duplicateKind k.id) ∨
      k.id ∉ c.ids ∧ ∃ flaw, k.signature.flaw? = some flaw ∧ e = .invalidSignature k.id flaw := by
  unfold register
  split
  next hid =>
    have hTaken : k.id ∈ c.ids := hid
    simp [hTaken, eq_comm]
  next hid =>
    have hFree : k.id ∉ c.ids := hid
    split
    next flaw hFlaw => simp [hFree, hFlaw, eq_comm]
    next hFlaw => simp [hFree, hFlaw]

theorem kinds_of_register (h : c.register k = .ok c') : c'.kinds = c.kinds ++ [k] := by
  unfold register at h
  split at h
  · cases h
  · split at h
    · cases h
    · cases h
      rfl

theorem register_eq_ok_iff : c.register k = .ok c' ↔ c'.kinds = c.kinds ++ [k] := by
  refine ⟨kinds_of_register, fun h => ?_⟩
  cases hResult : c.register k with
  | ok c'' => rw [eq_of_kinds ((kinds_of_register hResult).trans h.symm)]
  | error e =>
      -- the catalog that there is shows that nothing is wrong with the kind
      exfalso
      rcases register_eq_error_iff.mp hResult with ⟨hTaken, -⟩ | ⟨-, flaw, hFlaw, -⟩
      · have hNodup := c'.nodup
        rw [h, List.map_append, List.nodup_append] at hNodup
        exact hNodup.2.2 k.id hTaken k.id (by simp) rfl
      · have hSound := c'.sound k (by simp [h])
        cases hSound.symm.trans hFlaw

/-! ## Kinds in turn -/

theorem registerAll_nil : c.registerAll [] = .ok c := rfl

theorem registerAll_cons :
    c.registerAll (k :: ks) = c.register k >>= fun c' => c'.registerAll ks := rfl

theorem registerAll_eq_ok_iff : c.registerAll ks = .ok c' ↔ c'.kinds = c.kinds ++ ks := by
  induction ks generalizing c with
  | nil =>
      rw [registerAll_nil, Except.ok.injEq, List.append_nil]
      exact ⟨fun h => h ▸ rfl, fun h => eq_of_kinds h.symm⟩
  | cons k ks ih =>
      rw [registerAll_cons, bind_eq_ok_iff]
      simp only [register_eq_ok_iff, ih]
      constructor
      · rintro ⟨m, hm, h⟩
        rw [h, hm, List.append_assoc, List.singleton_append]
      · intro h
        -- the kinds up to `k` are those of a catalog, as all of them are
        have hSublist : (c.kinds ++ [k]).Sublist c'.kinds := by
          rw [h]
          exact (List.Sublist.refl _).append (List.singleton_sublist.mpr List.mem_cons_self)
        refine ⟨⟨c.kinds ++ [k], c'.nodup.sublist (hSublist.map _),
          fun j hj => c'.sound j (hSublist.subset hj)⟩, rfl, h.trans (List.append_cons ..)⟩

theorem registerAll_eq_error_iff : c.registerAll ks = .error e ↔
    ∃ before k after m, ks = before ++ k :: after ∧ c.registerAll before = .ok m ∧
      m.register k = .error e := by
  induction ks generalizing c with
  | nil => simp [registerAll_nil]
  | cons k ks ih =>
      rw [registerAll_cons, bind_eq_error_iff]
      constructor
      · rintro (h | ⟨m, hm, h⟩)
        · exact ⟨[], k, ks, c, rfl, rfl, h⟩
        · obtain ⟨before, j, after, m', rfl, hBefore, hj⟩ := ih.mp h
          refine ⟨k :: before, j, after, m', rfl, ?_, hj⟩
          rw [registerAll_cons, bind_eq_ok_iff]
          exact ⟨m, hm, hBefore⟩
      · rintro ⟨before, j, after, m, hSplit, hBefore, hj⟩
        cases before with
        | nil =>
            obtain ⟨rfl, rfl⟩ := List.cons.inj hSplit
            obtain rfl := Except.ok.inj hBefore
            exact .inl hj
        | cons i before =>
            obtain ⟨rfl, rfl⟩ := List.cons.inj hSplit
            rw [registerAll_cons, bind_eq_ok_iff] at hBefore
            obtain ⟨m', hm', hRest⟩ := hBefore
            exact .inr ⟨m', hm', ih.mpr ⟨before, j, after, m, rfl, hRest, hj⟩⟩

/-! ## Look-ups -/

theorem lookup_eq_ok_iff : c.lookup id = .ok k ↔ k ∈ c.kinds ∧ k.id = id := by
  have hFind : ∀ {j}, c.find? id = some j → j ∈ c.kinds ∧ j.id = id := fun h =>
    ⟨List.mem_of_find?_eq_some h, by simpa using List.find?_some h⟩
  constructor
  · intro h
    unfold lookup at h
    split at h
    next j hj =>
      obtain rfl := Except.ok.inj h
      exact hFind hj
    next => cases h
  · rintro ⟨hk, rfl⟩
    obtain ⟨j, hj⟩ := exists_lookup_iff.mpr (List.mem_map_of_mem hk : k.id ∈ c.ids)
    rw [hj]
    unfold lookup at hj
    split at hj
    next j' hj' =>
      obtain rfl := Except.ok.inj hj
      obtain ⟨hMem, hEq⟩ := hFind hj'
      rw [List.inj_on_of_nodup_map c.nodup hMem hk hEq]
    next => cases hj

theorem position?_eq_some_iff {i : Nat} : c.position? id = some i ↔ c.ids[i]? = some id := by
  unfold position?
  rw [List.idxOf?_eq_some_iff]
  constructor
  · rintro ⟨hi, hId, -⟩
    rw [List.getElem?_eq_getElem hi, hId]
  · intro h
    obtain ⟨hi, hId⟩ := List.getElem?_eq_some_iff.mp h
    refine ⟨hi, hId, fun j hj hEq => ?_⟩
    have := (List.Nodup.getElem_inj_iff c.nodup).mp (hEq.trans hId.symm)
    omega

end FaultBench.Catalog
