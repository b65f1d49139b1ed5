import FaultBench.Catalog.Registry
import FaultBench.Proofs.Catalog.Registration

/-!
# Histories of registries

The kinds of a registry and its index are changed one after the other, and the built-in kinds are
put into it without a check. Still the two agree after any history (`Reachable.lawful`): each step
that a caller can take keeps `Lawful`, and an attempt that fails changes nothing. So a registry
answers as the catalog of the same kinds does (`Keeps.agrees`), and a history of one is a history
of the other. `registration_history` puts this together.
-/

namespace FaultBench

/-- The catalogs that a caller can come by. -/
inductive Catalog.Reachable : Catalog → Prop
  | empty : Reachable .empty
  | builtin : Reachable .builtin
  | ofConfig {cfg : Config} {c : Catalog} (h : Catalog.ofConfig cfg = .ok c) : Reachable c
  | register {c c' : Catalog} {k : Kind} (hc : Reachable c) (h : c.register k = .ok c') :
      Reachable c'

namespace Registry

/-- The registries that a caller can come by. Attempts to register a kind may fail. -/
inductive Reachable : Registry → Prop
  | empty : Reachable .empty
  | builtin : Reachable .builtin
  | ofConfig {cfg : Config} {r : Registry} (h : Registry.ofConfig cfg = .ok r) : Reachable r
  | attempt {r : Registry} (hr : Reachable r) (k : Kind) : Reachable (r.attempt k).2

/-- A registry after attempts to register kinds in turn. -/
def attempts (r : Registry) (ks : List Kind) : Registry := ks.foldl (fun r k => (r.attempt k).2) r

variable {r r' : Registry} {c c' : Catalog} {k : Kind} {ks : List Kind} {id : KindId}

/-! ## One attempt -/

theorem attempt_eq : r.attempt k =
    if r.index[k.id]?.isSome then (.error (.duplicateKind k.id), r)
    else match k.signature.flaw? with
      | some flaw => (.error (.invalidSignature k.id flaw), r)
      | none => (.ok (), r.push k) := by
  rw [← Std.HashMap.contains_eq_isSome_getElem?]
  change StateT.run (ExceptT.run (if r.index.contains k.id then _ else _)) r = _
  split
  · rfl
  · cases k.signature.flaw? <;> rfl

theorem attempt_of_taken (h : r.index[k.id]?.isSome = true) :
    r.attempt k = (.error (.duplicateKind k.id), r) := by
  rw [attempt_eq, if_pos h]

theorem attempt_of_flaw {flaw : SignatureFlaw} (h : r.index[k.id]? = none)
    (hFlaw : k.signature.flaw? = some flaw) :
    r.attempt k = (.error (.invalidSignature k.id flaw), r) := by
  simp [attempt_eq, h, hFlaw]

theorem attempt_of_free (h : r.index[k.id]? = none) (hSound : k.signature.flaw? = none) :
    r.attempt k = (.ok (), r.push k) := by
  simp [attempt_eq, h, hSound]

/-- Kinds are registered in turn up to the first attempt that fails. -/
theorem run_registerAll_cons : (registerAll (k :: ks)).run.run r =
    match r.attempt k with
    | (.ok (), r') => (registerAll ks).run.run r'
    | (.error e, r') => (.error e, r') := by
  change StateT.run (ExceptT.run (register k >>= fun _ => registerAll ks)) r = _
  rw [attempt, run_bind]
  rcases (register k).run.run r with ⟨_ | _, r'⟩ <;> rfl

/-! ## Kinds and index agree -/

/-- The index tells where each kind is and nothing else, and all signatures can be looked for. -/
structure Lawful (r : Registry) : Prop where
  index_iff : ∀ id i, r.index[id]? = some i ↔ r.kinds[i]?.map Kind.id = some id
  sound : ∀ k ∈ r.kinds, k.signature.flaw? = none

namespace Lawful

theorem empty : Registry.empty.Lawful where
  index_iff id i := by simp [Registry.empty]
  sound k hk := by simp [Registry.empty] at hk

theorem index_eq_none_iff (h : r.Lawful) : r.index[id]? = none ↔ ∀ k ∈ r.kinds, k.id ≠ id := by
  rw [Option.eq_none_iff_forall_ne_some]
  simp only [ne_eq, h.index_iff, Option.map_eq_some_iff, not_exists, not_and]
  constructor
  · intro hNone k hk
    obtain ⟨i, hi⟩ := Array.mem_iff_getElem?.mp hk
    exact hNone i k hi
  · intro hNone i k hi
    exact hNone k (Array.mem_of_getElem? hi)

/-- No two kinds have one id, as the index tells one place for it. -/
theorem nodup (h : r.Lawful) : (r.kinds.toList.map Kind.id).Nodup := by
  rw [List.nodup_iff_injective_get]
  intro i j hij
  have hPlace : ∀ n : Fin (r.kinds.toList.map Kind.id).length,
      r.index[(r.kinds.toList.map Kind.id).get n]? = some n.val := by
    intro n
    rw [h.index_iff, ← Array.getElem?_toList, ← List.getElem?_map, List.getElem?_eq_getElem n.isLt]
    rfl
  have hi := hPlace i
  rw [hij, hPlace j] at hi
  exact Fin.ext (Option.some.inj hi).symm

/-- A kind under a new id is put in its place, and all others keep theirs. -/
theorem push (h : r.Lawful) (hid : r.index[k.id]? = none) (hSound : k.signature.flaw? = none) :
    (r.push k).Lawful where
  index_iff id i := by
    have hEnd : r.index[id]? ≠ some r.kinds.size := by
      simp [h.index_iff]
    simp only [Registry.push, Std.HashMap.getElem?_insert, Array.getElem?_push, beq_iff_eq]
    by_cases hk : k.id = id
    · subst hk
      have hOther : r.kinds[i]?.map Kind.id ≠ some k.id := by
        rw [Ne, ← h.index_iff, hid]
        simp
      by_cases hi : i = r.kinds.size
      · simp [hi]
      · simpa [hi, Ne.symm hi] using hOther
    · by_cases hi : i = r.kinds.size
      · subst hi
        simp [hk, hEnd]
      · simp [hk, hi, h.index_iff]
  sound j hj := by
    rcases Array.mem_push.mp hj with hj | rfl
    · exact h.sound j hj
    · exact hSound

theorem foldl_push (h : r.Lawful) (hNodup : (ks.map Kind.id).Nodup)
    (hFree : ∀ k ∈ ks, r.index[k.id]? = none) (hSound : ∀ k ∈ ks, k.signature.flaw? = none) :
    (ks.foldl Registry.push r).Lawful := by
  induction ks generalizing r with
  | nil => exact h
  | cons k ks ih =>
      rw [List.map_cons, List.nodup_cons] at hNodup
      rw [List.forall_mem_cons] at hFree hSound
      refine ih (h.push hFree.1 hSound.1) hNodup.2 (fun j hj => ?_) hSound.2
      have hNe : k.id ≠ j.id := fun hEq => hNodup.1 (hEq ▸ List.mem_map_of_mem hj)
      simp [Registry.push, Std.HashMap.getElem?_insert, hNe, hFree.2 j hj]

/-- An attempt puts a kind behind all others or changes nothing, and so the laws still hold. -/
theorem attempt (h : r.Lawful) (k : Kind) : (r.attempt k).2.Lawful := by
  rw [attempt_eq]
  split
  · exact h
  next hFree =>
    split
    · exact h
    next hSound => exact h.push (by simpa using hFree) hSound

end Lawful

theorem toList_foldl_push :
    (ks.foldl push r).kinds.toList = r.kinds.toList ++ ks := by
  induction ks generalizing r with
  | nil => simp
  | cons k ks ih => simp [ih, push]

/-! ## Look-ups -/

theorem Lawful.lookup_of_mem (h : r.Lawful) (hk : k ∈ r.kinds) : r.lookup k.id = .ok k := by
  obtain ⟨i, hi⟩ := Array.mem_iff_getElem?.mp hk
  have hIndex : r.index[k.id]? = some i := (h.index_iff k.id i).mpr (by rw [hi, Option.map_some])
  simp [lookup, hIndex, hi]

theorem lookup_of_index_eq_none (h : r.index[id]? = none) :
    r.lookup id = .error (.unknownKind id) := by
  simp [lookup, h]

theorem Lawful.lookup_eq_ok_iff (h : r.Lawful) : r.lookup id = .ok k ↔ k ∈ r.kinds ∧ k.id = id := by
  constructor
  · intro hLookup
    by_cases hNone : r.index[id]? = none
    · rw [lookup_of_index_eq_none hNone] at hLookup
      cases hLookup
    · rw [h.index_eq_none_iff] at hNone
      push Not at hNone
      obtain ⟨j, hj, rfl⟩ := hNone
      rw [h.lookup_of_mem hj] at hLookup
      exact Except.ok.inj hLookup ▸ ⟨hj, rfl⟩
  · rintro ⟨hk, rfl⟩
    exact h.lookup_of_mem hk

/-! ## Catalogs of the same kinds -/

/-- The registry is lawful and has the kinds of the catalog. -/
structure Keeps (r : Registry) (c : Catalog) : Prop where
  lawful : r.Lawful
  kinds : r.kinds.toList = c.kinds

/-- Whatever is asked, the registry answers as the catalog does. -/
structure Agrees (r : Registry) (c : Catalog) : Prop where
  kinds : r.kinds.toList = c.kinds
  position : ∀ id, r.position? id = c.position? id
  lookup : ∀ id, r.lookup id = c.lookup id
  select : ∀ requested, r.select requested = c.select requested
  register : ∀ k, (r.attempt k).1 = (c.register k).map fun _ => ()

namespace Keeps

theorem mem_kinds (h : r.Keeps c) : k ∈ r.kinds ↔ k ∈ c.kinds := by
  rw [← h.kinds, Array.mem_toList_iff]

theorem index_eq_none_iff (h : r.Keeps c) : r.index[id]? = none ↔ id ∉ c.ids := by
  simp [h.lawful.index_eq_none_iff, h.mem_kinds, Catalog.ids]

theorem lookup_eq (h : r.Keeps c) (id : KindId) : r.lookup id = c.lookup id := by
  cases hLookup : c.lookup id with
  | ok k =>
      rw [h.lawful.lookup_eq_ok_iff, h.mem_kinds]
      exact Catalog.lookup_eq_ok_iff.mp hLookup
  | error e =>
      obtain ⟨hid, rfl⟩ := Catalog.lookup_eq_error_iff.mp hLookup
      exact lookup_of_index_eq_none (h.index_eq_none_iff.mpr hid)

theorem position_eq (h : r.Keeps c) (id : KindId) : r.position? id = c.position? id := by
  ext i
  rw [Catalog.position?_eq_some_iff, position?, h.lawful.index_iff, Catalog.ids, ← h.kinds,
    List.getElem?_map, Array.getElem?_toList]

theorem select_eq (h : r.Keeps c) (requested : List KindId) :
    r.select requested = c.select requested := by
  have hLookup : r.lookup = c.lookup := funext h.lookup_eq
  rw [select, Catalog.select, hLookup, h.kinds]

/-- Either both take the kind, or both refuse it for one reason and the registry is as before. -/
theorem attempt (h : r.Keeps c) (k : Kind) :
    (∃ c', c.register k = .ok c' ∧ r.attempt k = (.ok (), r.push k) ∧ (r.push k).Keeps c') ∨
      ∃ e, c.register k = .error e ∧ r.attempt k = (.error e, r) := by
  cases hRegister : c.register k with
  | ok c' =>
      have hKinds := Catalog.kinds_of_register hRegister
      have hSound : k.signature.flaw? = none := c'.sound k (by simp [hKinds])
      have hFree : r.index[k.id]? = none := by
        rw [h.index_eq_none_iff]
        intro hTaken
        have hError := Catalog.register_eq_error_iff.mpr (.inl ⟨hTaken, rfl⟩)
        cases hRegister.symm.trans hError
      refine .inl ⟨c', rfl, attempt_of_free hFree hSound, h.lawful.push hFree hSound, ?_⟩
      rw [hKinds, ← h.kinds, push, Array.toList_push]
  | error e =>
      refine .inr ⟨e, rfl, ?_⟩
      rcases Catalog.register_eq_error_iff.mp hRegister with
        ⟨hTaken, rfl⟩ | ⟨hFree, flaw, hFlaw, rfl⟩
      · refine attempt_of_taken (Option.isSome_iff_ne_none.mpr ?_)
        rwa [Ne, h.index_eq_none_iff, not_not]
      · exact attempt_of_flaw (h.index_eq_none_iff.mpr hFree) hFlaw

theorem agrees (h : r.Keeps c) : r.Agrees c where
  kinds := h.kinds
  position := h.position_eq
  lookup := h.lookup_eq
  select := h.select_eq
  register k := by
    rcases h.attempt k with ⟨c', hRegister, hAttempt, -⟩ | ⟨e, hRegister, hAttempt⟩ <;>
      rw [hRegister, hAttempt] <;> rfl

theorem empty : Registry.empty.Keeps .empty where
  lawful := .empty
  kinds := rfl

/-- The built-in kinds are put in without a check, and they would pass it. -/
theorem builtin : Registry.builtin.Keeps .builtin where
  lawful := Lawful.empty.foldl_push Catalog.builtin.nodup (by simp [Registry.empty])
    Catalog.builtin.sound
  kinds := by
    rw [Registry.builtin, toList_foldl_push]
    rfl

/-- Kinds that are registered in turn are taken by both, or one of them is refused by both. -/
theorem registerAll (h : r.Keeps c) (ks : List Kind) :
    (∃ c' r', c.registerAll ks = .ok c' ∧ (Registry.registerAll ks).run.run r = (.ok (), r') ∧
        r'.Keeps c') ∨
      ∃ e r', c.registerAll ks = .error e ∧
        (Registry.registerAll ks).run.run r = (.error e, r') := by
  induction ks generalizing r c with
  | nil => exact .inl ⟨c, r, rfl, rfl, h⟩
  | cons k ks ih =>
      rw [run_registerAll_cons, Catalog.registerAll_cons]
      rcases h.attempt k with ⟨c', hRegister, hAttempt, hKeeps⟩ | ⟨e, hRegister, hAttempt⟩
      · rw [hRegister, hAttempt]
        exact ih hKeeps
      · rw [hRegister, hAttempt]
        exact .inr ⟨e, r, rfl, rfl⟩

/-- A configuration has a registry exactly if it has a catalog, and they keep the same kinds. -/
theorem ofConfig (cfg : Config) :
    (∃ c r, Catalog.ofConfig cfg = .ok c ∧ Registry.ofConfig cfg = .ok r ∧ r.Keeps c) ∨
      ∃ e, Catalog.ofConfig cfg = .error e ∧ Registry.ofConfig cfg = .error e := by
  unfold Catalog.ofConfig Registry.ofConfig
  cases cfg.kindList with
  | error e => exact .inr ⟨e, rfl, rfl⟩
  | ok ks =>
      rcases Keeps.empty.registerAll ks with ⟨c, r, hc, hr, h⟩ | ⟨e, r, hc, hr⟩
      · exact .inl ⟨c, r, hc, by simp [bind, Except.bind, hr], h⟩
      · exact .inr ⟨e, hc, by simp [bind, Except.bind, hr]⟩

end Keeps

/-! ## Histories -/

/-- What a caller can come by as a registry, a caller can come by as a catalog. -/
theorem Reachable.exists_catalog (h : r.Reachable) : ∃ c : Catalog, c.Reachable ∧ r.Keeps c := by
  induction h with
  | empty => exact ⟨_, .empty, .empty⟩
  | builtin => exact ⟨_, .builtin, .builtin⟩
  | @ofConfig cfg r h =>
      rcases Keeps.ofConfig cfg with ⟨c, r', hc, hr, hKeeps⟩ | ⟨e, -, hr⟩
      · obtain rfl := Except.ok.inj (hr.symm.trans h)
        exact ⟨c, .ofConfig hc, hKeeps⟩
      · cases hr.symm.trans h
  | attempt hr k ih =>
      obtain ⟨c, hc, hKeeps⟩ := ih
      rcases hKeeps.attempt k with ⟨c', hRegister, hAttempt, hKeeps'⟩ | ⟨e, -, hAttempt⟩
      · rw [hAttempt]
        exact ⟨c', .register hc hRegister, hKeeps'⟩
      · rw [hAttempt]
        exact ⟨c, hc, hKeeps⟩

end Registry

/-- What a caller can come by as a catalog, a caller can come by as a registry. -/
theorem Catalog.Reachable.exists_registry {c : Catalog} (h : c.Reachable) :
    ∃ r : Registry, r.Reachable ∧ r.Keeps c := by
  induction h with
  | empty => exact ⟨_, .empty, .empty⟩
  | builtin => exact ⟨_, .builtin, .builtin⟩
  | @ofConfig cfg c h =>
      rcases Registry.Keeps.ofConfig cfg with ⟨c', r, hc, hr, hKeeps⟩ | ⟨e, hc, -⟩
      · obtain rfl := Except.ok.inj (hc.symm.trans h)
        exact ⟨r, .ofConfig hr, hKeeps⟩
      · cases hc.symm.trans h
  | @register c c' k hc h ih =>
      obtain ⟨r, hr, hKeeps⟩ := ih
      rcases hKeeps.attempt k with ⟨c'', hRegister, hAttempt, hKeeps'⟩ | ⟨e, hRegister, -⟩
      · obtain rfl := Except.ok.inj (hRegister.symm.trans h)
        have hReachable := hr.attempt k
        rw [hAttempt] at hReachable
        exact ⟨_, hReachable, hKeeps'⟩
      · cases hRegister.symm.trans h

namespace Registry

variable {r : Registry} {k : Kind} {ks : List Kind} {id : KindId}

theorem Reachable.lawful (h : r.Reachable) : r.Lawful := by
  obtain ⟨c, -, hKeeps⟩ := h.exists_catalog
  exact hKeeps.lawful

theorem lookup_push (h : r.Lawful) (hPush : (r.push k).Lawful) (hid : id ≠ k.id) :
    (r.push k).lookup id = r.lookup id := by
  by_cases hNone : r.index[id]? = none
  · have hNone' : (r.push k).index[id]? = none := by
      simp [push, Std.HashMap.getElem?_insert, Ne.symm hid, hNone]
    rw [lookup_of_index_eq_none hNone, lookup_of_index_eq_none hNone']
  · rw [h.index_eq_none_iff] at hNone
    push Not at hNone
    obtain ⟨j, hj, rfl⟩ := hNone
    rw [h.lookup_of_mem hj, hPush.lookup_of_mem (Array.mem_push_of_mem k hj)]

theorem position?_push (hid : id ≠ k.id) : (r.push k).position? id = r.position? id := by
  simp [position?, push, Std.HashMap.getElem?_insert, Ne.symm hid]

/-- No attempt moves a kind that is there. -/
theorem Lawful.attempt_stays (h : r.Lawful) (hk : k ∈ r.kinds) (j : Kind) :
    k ∈ (r.attempt j).2.kinds ∧ (r.attempt j).2.position? k.id = r.position? k.id := by
  rw [attempt_eq]
  split
  · exact ⟨hk, rfl⟩
  next hFree =>
    split
    · exact ⟨hk, rfl⟩
    · have hNe : k.id ≠ j.id := by
        rw [Bool.not_eq_true, Option.isSome_eq_false_iff, Option.isNone_iff_eq_none,
          h.index_eq_none_iff] at hFree
        exact hFree k hk
      exact ⟨Array.mem_push_of_mem j hk, position?_push hNe⟩

theorem Lawful.attempts_stays (h : r.Lawful) (hk : k ∈ r.kinds) (ks : List Kind) :
    (r.attempts ks).position? k.id = r.position? k.id ∧ (r.attempts ks).lookup k.id = .ok k := by
  induction ks generalizing r with
  | nil => exact ⟨rfl, h.lookup_of_mem hk⟩
  | cons j ks ih =>
      obtain ⟨hStays, hPosition⟩ := h.attempt_stays hk j
      rw [← hPosition]
      exact ih (h.attempt j) hStays

/-- What a registry answers, and what an attempt to register a kind does to it. -/
structure Laws (r : Registry) : Prop where
  nodup : (r.kinds.toList.map Kind.id).Nodup
  position_iff : ∀ id i, r.position? id = some i ↔ ∃ k, r.kinds[i]? = some k ∧ k.id = id
  known : ∀ k ∈ r.kinds, r.lookup k.id = .ok k
  unknown : ∀ id, (∀ k ∈ r.kinds, k.id ≠ id) →
    r.position? id = none ∧ r.lookup id = .error (.unknownKind id)
  sound : ∀ k ∈ r.kinds, k.signature.flaw? = none
  /-- That the id is taken is said first. -/
  taken : ∀ k, (∃ j ∈ r.kinds, j.id = k.id) → r.attempt k = (.error (.duplicateKind k.id), r)
  flawed : ∀ k flaw, (∀ j ∈ r.kinds, j.id ≠ k.id) → k.signature.flaw? = some flaw →
    r.attempt k = (.error (.invalidSignature k.id flaw), r)
  added : ∀ k, (∀ j ∈ r.kinds, j.id ≠ k.id) → k.signature.flaw? = none →
    ∃ r', r.attempt k = (.ok (), r') ∧ r'.kinds = r.kinds.push k ∧
      r'.position? k.id = some r.kinds.size ∧ r'.lookup k.id = .ok k ∧
      ∀ id, id ≠ k.id → r'.position? id = r.position? id ∧ r'.lookup id = r.lookup id
  /-- Whatever is attempted later, a kind stays where it is. -/
  stays : ∀ ks, ∀ k ∈ r.kinds, (r.attempts ks).position? k.id = r.position? k.id ∧
    (r.attempts ks).lookup k.id = .ok k

theorem Lawful.laws (h : r.Lawful) : r.Laws where
  nodup := h.nodup
  position_iff id i := by rw [position?, h.index_iff, Option.map_eq_some_iff]
  known k hk := h.lookup_of_mem hk
  unknown id hid :=
    have hNone := h.index_eq_none_iff.mpr hid
    ⟨hNone, lookup_of_index_eq_none hNone⟩
  sound := h.sound
  taken k hk := by
    refine attempt_of_taken (Option.isSome_iff_ne_none.mpr ?_)
    rw [Ne, h.index_eq_none_iff]
    push Not
    exact hk
  flawed k flaw hid hFlaw := attempt_of_flaw (h.index_eq_none_iff.mpr hid) hFlaw
  added k hid hSound := by
    have hFree := h.index_eq_none_iff.mpr hid
    have hPush := h.push hFree hSound
    refine ⟨_, attempt_of_free hFree hSound, rfl, ?_, ?_, fun id hNe => ?_⟩
    · exact Std.HashMap.getElem?_insert_self
    · exact hPush.lookup_of_mem Array.mem_push_self
    · exact ⟨position?_push hNe, lookup_push h hPush hNe⟩
  stays ks k hk := h.attempts_stays hk ks

/-- **Histories of registries.** After any history the index of a registry tells the place of each
kind and nothing else, no id is there twice, and all signatures can be looked for. An attempt to
register a kind puts it behind all others and moves none of them, or says why not and changes
nothing. The catalogs that one can come by are those of the same kinds, and they answer alike. -/
theorem registration_history :
    (∀ r : Registry, r.Reachable → r.Laws ∧ ∃ c : Catalog, c.Reachable ∧ r.Agrees c) ∧
      ∀ c : Catalog, c.Reachable → ∃ r : Registry, r.Reachable ∧ r.Laws ∧ r.Agrees c := by
  constructor
  · intro r h
    obtain ⟨c, hc, hKeeps⟩ := h.exists_catalog
    exact ⟨h.lawful.laws, c, hc, hKeeps.agrees⟩
  · intro c h
    obtain ⟨r, hr, hKeeps⟩ := h.exists_registry
    exact ⟨r, hr, hr.lawful.laws, hKeeps.agrees⟩

/-- A built-in kind without a text to look for. -/
def blankLeak : Kind := { Kind.builtin .leak with signature := ⟨"", .substring⟩ }

/-- A kind that is not built in. -/
def lostBlock : Kind :=
  .ofClass ⟨"lost-block", by decide, List.all_eq_true.1 rfl⟩ .leak ⟨"lost", .regex⟩

theorem registration_history_builtin :
    builtin.Reachable ∧
      builtin.attempt blankLeak = (.error (.duplicateKind blankLeak.id), builtin) ∧
      ∃ r, builtin.attempt lostBlock = (.ok (), r) ∧ r.position? lostBlock.id = some 5 ∧
        r.lookup lostBlock.id = .ok lostBlock := by
  obtain ⟨hLaws, -⟩ := registration_history.1 builtin .builtin
  have hMem : ∀ k, k ∈ builtin.kinds ↔ k ∈ Kind.builtins := fun k => Keeps.builtin.mem_kinds
  have hSize : builtin.kinds.size = 5 := by
    rw [← Array.length_toList, Keeps.builtin.kinds]
    rfl
  refine ⟨.builtin, hLaws.taken blankLeak ⟨.builtin .leak, ?_, rfl⟩, ?_⟩
  · rw [hMem]
    decide
  · have hFree : ∀ j ∈ builtin.kinds, j.id ≠ lostBlock.id := by
      simp only [hMem]
      decide
    obtain ⟨r, hAttempt, -, hPosition, hLookup, -⟩ := hLaws.added lostBlock hFree (by decide)
    exact ⟨r, hAttempt, hSize ▸ hPosition, hLookup⟩

end Registry

end FaultBench
