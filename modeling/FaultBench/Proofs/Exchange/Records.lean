import FaultBench.Data.Record
import FaultBench.Proofs.Json.RoundTrip

/-!
# Records, written and read

`Decoder.Recovers f n x a` says that `x` is a form of the value `a`: every dialect reads `a` from
it, and it has a JSON form of its own. Scalars, optional values and lists have such forms, and a
record has one if the values of its fields have: its fields are found under their names
(`Slots.ofFields_eq`). A value is read back from the JSON text that is written for its form
(`Decoder.Recovers.survives`).
-/

namespace FaultBench

namespace Datum

attribute [simp] Fits.null Fits.bool Fits.text

theorem Fits.mono {m n : Nat} {x : Datum} (h : x.Fits m) (hLe : m ≤ n) : x.Fits n := by
  induction h generalizing n with
  | null => exact .null
  | bool b => exact .bool b
  | text s => exact .text s
  | int h => exact .int h
  | list _ ih =>
      obtain ⟨n, rfl⟩ := Nat.exists_eq_add_of_le' (Nat.le_of_add_left_le hLe)
      exact .list fun x hx => ih x hx (Nat.le_of_add_le_add_right hLe)
  | fields _ ih =>
      obtain ⟨n, rfl⟩ := Nat.exists_eq_add_of_le' (Nat.le_of_add_left_le hLe)
      exact .fields fun kv hkv => ih kv hkv (Nat.le_of_add_le_add_right hLe)

theorem wholeList_of_forall {xs : List Datum} (h : ∀ x ∈ xs, x.isWhole = true) :
    isWhole.wholeList xs = true := by
  induction xs with
  | nil => rfl
  | cons x xs ih =>
      obtain ⟨hx, hxs⟩ := List.forall_mem_cons.mp h
      rw [isWhole.wholeList, hx, ih hxs, Bool.and_self]

theorem wholeFields_of_forall {kvs : List (String × Datum)}
    (h : ∀ kv ∈ kvs, kv.2.isWhole = true) : isWhole.wholeFields kvs = true := by
  induction kvs with
  | nil => rfl
  | cons kv kvs ih =>
      obtain ⟨hx, hkvs⟩ := List.forall_mem_cons.mp h
      rw [isWhole.wholeFields, hx, ih hkvs, Bool.and_self]

/-- What has a JSON form holds nothing broken. -/
theorem Fits.isWhole {n : Nat} {x : Datum} (h : x.Fits n) : x.isWhole = true := by
  induction h with
  | null => rfl
  | bool b => rfl
  | text s => rfl
  | int h => rfl
  | list _ ih => exact wholeList_of_forall ih
  | fields _ ih => exact wholeFields_of_forall ih

end Datum

/-! ## Fields -/

namespace Slots

/-- Under distinct names, a name has the value that is found first. -/
theorem atMostOnce_eq_lookup {kvs : List (String × Datum)} (h : (kvs.map Prod.fst).Nodup)
    (name : String) : atMostOnce kvs name = some (kvs.lookup name) := by
  induction kvs with
  | nil => rfl
  | cons kv kvs ih =>
      obtain ⟨k, x⟩ := kv
      rw [List.map_cons, List.nodup_cons] at h
      by_cases hName : k = name
      · subst hName
        have hNone : kvs.filter (·.1 == k) = [] := by
          rw [List.filter_eq_nil_iff]
          intro kv hkv hEq
          exact h.1 (List.mem_map.mpr ⟨kv, hkv, beq_iff_eq.mp hEq⟩)
        simp [atMostOnce, hNone]
      · have hNot : (k == name) = false := beq_false_of_ne hName
        have hNot' : (name == k) = false := beq_false_of_ne (Ne.symm hName)
        rw [atMostOnce, List.filter_cons_of_neg (by simp [hNot]), List.lookup_cons, hNot']
        exact ih h.2

/-- Under distinct names, the fields of a record are found, if it has no others or may have. -/
@[simp] theorem ofFields_eq {d : Dialect} {closed : Bool} {names : List String}
    {kvs : List (String × Datum)} (h : (kvs.map Prod.fst).Nodup)
    (hClosed : closed = true → ∀ kv ∈ kvs, kv.1 ∈ names) :
    ofFields d closed names kvs =
      some ⟨d, true, names.map fun name => (name, kvs.lookup name)⟩ := by
  have hKnown : ¬ (closed && !kvs.all (names.contains ·.1)) = true := by
    intro hUnknown
    obtain ⟨hTrue, hUnknown⟩ := Bool.and_eq_true_iff.mp hUnknown
    have hAll : kvs.all (names.contains ·.1) = true :=
      List.all_eq_true.mpr fun kv hkv => List.contains_iff_mem.mpr (hClosed hTrue kv hkv)
    rw [hAll] at hUnknown
    exact Bool.false_ne_true hUnknown
  have hValues : names.mapM (fun name => (atMostOnce kvs name).map (name, ·)) =
      some (names.map fun name => (name, kvs.lookup name)) := by
    simp only [atMostOnce_eq_lookup h, Option.map_some]
    exact List.mapM_pure
  rw [ofFields, if_neg hKnown]
  simp [hValues]

section Flattened

variable {d : Dialect} {names : List String} {front kvs back : List (String × Datum)}

/-- Fields that stand between those of a record leave the record as it is, if they have other
names. -/
theorem ofFields_flattened (hNames : names.Nodup) (hNodup : (kvs.map Prod.fst).Nodup)
    (hForeign : ∀ kv ∈ kvs, kv.1 ∉ names) (hOwn : (front ++ back).map Prod.fst = names) :
    ofFields d false names (front ++ kvs ++ back) = ofFields d false names (front ++ back) := by
  subst hOwn
  have hDisjoint : (kvs.map Prod.fst).Disjoint ((front ++ back).map Prod.fst) := by
    intro name hName
    obtain ⟨kv, hkv, rfl⟩ := List.mem_map.mp hName
    exact hForeign kv hkv
  have hPerm : (front ++ kvs ++ back).Perm (kvs ++ (front ++ back)) := by
    rw [← List.append_assoc]
    exact List.perm_append_comm.append_right back
  have hAll : ((front ++ kvs ++ back).map Prod.fst).Nodup := by
    rw [(hPerm.map Prod.fst).nodup_iff, List.map_append]
    exact hNodup.append hNames hDisjoint
  rw [ofFields_eq hAll (by simp), ofFields_eq hNames (by simp)]
  congr 2
  refine List.map_congr_left fun name hName => ?_
  have hNone : kvs.lookup name = none := by
    rw [List.lookup_eq_none_iff]
    intro kv hkv
    exact bne_iff_ne.mpr fun hEq => hForeign kv hkv (hEq ▸ hName)
  simp [List.lookup_append, hNone]

/-- Fields of other names are found again between those of a record. -/
theorem filter_flattened (hForeign : ∀ kv ∈ kvs, kv.1 ∉ names)
    (hOwn : (front ++ back).map Prod.fst = names) :
    (front ++ kvs ++ back).filter (fun kv => !names.contains kv.1) = kvs := by
  subst hOwn
  have hKnown : ∀ l ⊆ front ++ back,
      l.filter (fun kv => !((front ++ back).map Prod.fst).contains kv.1) = [] := by
    intro l hSub
    rw [List.filter_eq_nil_iff]
    intro kv hkv
    rw [List.contains_iff_mem.mpr (List.mem_map_of_mem (hSub hkv))]
    exact Bool.false_ne_true
  rw [List.filter_append, List.filter_append, hKnown front (List.subset_append_left _ _),
    hKnown back (List.subset_append_right _ _), List.nil_append, List.append_nil,
    List.filter_eq_self]
  intro kv hkv
  simpa using hForeign kv hkv

end Flattened

/-! Names are compared by equations, which `simp` decides without evaluating texts. -/

@[simp] theorem lookup_cons (name k : String) (x : Datum) (kvs : List (String × Datum)) :
    ((k, x) :: kvs).lookup name = if name = k then some x else kvs.lookup name := by
  rw [List.lookup_cons]
  split <;> simp_all

@[simp] theorem get_cons (d : Dialect) (name k : String) (o : Option Datum)
    (values : List (String × Option Datum)) :
    get ⟨d, true, (k, o) :: values⟩ name = if name = k then o else get ⟨d, true, values⟩ name := by
  rw [get, List.lookup_cons]
  split <;> simp_all [get]

variable {α : Type} {s : Slots} {name : String}

@[simp] theorem orDefault_eq {a : α} {f : Decoder α} :
    s.orDefault name a f = (s.get name).elim (some a) (f s.dialect) := by
  rw [orDefault]
  split <;> simp [*]

@[simp] theorem optional_eq {f : Decoder α} :
    s.optional name f =
      (s.get name).elim (if s.named then some none else none) (f.option s.dialect) := by
  rw [optional]
  split <;> simp [*]

attribute [simp] Slots.of Slots.required

end Slots

/-! ## Forms of values -/

/-- In either layout, the value is read from the JSON text that is written for the datum. -/
def Json.Survives {α : Type} (f : Decoder α) (x : Datum) (a : α) : Prop :=
  ∀ l : Layout, (read? (write l x)).bind (f .json) = some a

namespace Decoder

variable {α : Type} {f : Decoder α} {n : Nat} {x : Datum} {a : α}

@[simp] theorem text_text (d : Dialect) (s : String) : Decoder.text d (.text s) = some s := rfl

@[simp] theorem bool_bool (d : Dialect) (b : Bool) : Decoder.bool d (.bool b) = some b := rfl

/-- The value is read from the datum in every dialect, and the datum has a JSON form of its own,
with at most `n` levels. -/
structure Recovers (f : Decoder α) (n : Nat) (x : Datum) (a : α) : Prop where
  reads (d : Dialect) : f d x = some a
  fits : x.Fits n

namespace Recovers

theorem mono {m : Nat} (h : Recovers f m x a) (hLe : m ≤ n) : Recovers f n x a :=
  ⟨h.reads, h.fits.mono hLe⟩

/-- A value is read back from the JSON text of its form. -/
theorem survives (h : Recovers f n x a) (hn : n ≤ Json.maxDepth) : Json.Survives f x a := by
  intro l
  rw [Json.read?_write l (h.fits.mono hn), Option.bind_some, h.reads]

theorem text (s : String) : Recovers Decoder.text n (.text s) s := ⟨fun _ => rfl, .text s⟩

theorem bool (b : Bool) : Recovers Decoder.bool n (.bool b) b := ⟨fun _ => rfl, .bool b⟩

theorem intIn {lo hi k : Int} (h : lo ≤ k ∧ k ≤ hi) (hWord : Json.IsWord k) :
    Recovers (Decoder.intIn lo hi) n (.int k) k :=
  ⟨fun _ => if_pos h, .int hWord⟩

/-- Some value has its own form, and no value has none. -/
theorem ofOption {g : α → Datum} {o : Option α} (h : ∀ a ∈ o, Recovers f n (g a) a)
    (hNull : ∀ a ∈ o, g a ≠ .null) : Recovers f.option n (.ofOption g o) o := by
  cases o with
  | none => exact ⟨fun _ => rfl, .null⟩
  | some a =>
      refine ⟨fun d => ?_, (h a rfl).fits⟩
      have hRead := (h a rfl).reads d
      rw [Datum.ofOption, Decoder.option, hRead]
      · rfl
      · exact hNull a rfl

theorem list {g : α → Datum} {l : List α} (h : ∀ a ∈ l, Recovers f n (g a) a) :
    Recovers f.list (n + 1) (.list (l.map g)) l := by
  refine ⟨fun d => ?_, .list fun x hx => ?_⟩
  · rw [Decoder.list]
    induction l with
    | nil => rfl
    | cons a l ih =>
        obtain ⟨ha, hl⟩ := List.forall_mem_cons.mp h
        simp [ha.reads d, ih hl]
  · obtain ⟨a, ha, rfl⟩ := List.mem_map.mp hx
    exact (h a ha).fits

theorem texts (l : List String) : Recovers Decoder.text.list (n + 1) (.texts l) l :=
  .list fun s _ => .text s

end Recovers

/-! ## Numbers by their sizes -/

def IsInt32 (n : Int) : Prop := -0x80000000 ≤ n ∧ n ≤ 0x7fffffff
def IsInt64 (n : Int) : Prop := -0x8000000000000000 ≤ n ∧ n ≤ 0x7fffffffffffffff
def IsNat32 (n : Nat) : Prop := n ≤ 0xffffffff
def IsNat64 (n : Nat) : Prop := n ≤ 0xffffffffffffffff

instance (n : Int) : Decidable (IsInt32 n) := inferInstanceAs (Decidable (_ ∧ _))
instance (n : Int) : Decidable (IsInt64 n) := inferInstanceAs (Decidable (_ ∧ _))
instance (n : Nat) : Decidable (IsNat32 n) := inferInstanceAs (Decidable (_ ≤ _))
instance (n : Nat) : Decidable (IsNat64 n) := inferInstanceAs (Decidable (_ ≤ _))

namespace Recovers

theorem int32 {k : Int} (h : IsInt32 k) : Recovers Decoder.int32 n (.int k) k :=
  intIn h ⟨by have := h.1; omega, by have := h.2; omega⟩

theorem int64 {k : Int} (h : IsInt64 k) : Recovers Decoder.int64 n (.int k) k :=
  intIn h ⟨h.1, by have := h.2; omega⟩

theorem nat32 {k : Nat} (h : IsNat32 k) : Recovers Decoder.nat32 n (.nat k) k := by
  have hk : k ≤ 0xffffffff := h
  have hInt : Recovers (Decoder.intIn 0 0xffffffff) n (.int k) k :=
    intIn ⟨by omega, by omega⟩ ⟨by omega, by omega⟩
  exact ⟨fun d => by simp [Decoder.nat32, Datum.nat, hInt.reads d], hInt.fits⟩

theorem nat64 {k : Nat} (h : IsNat64 k) : Recovers Decoder.nat64 n (.nat k) k := by
  have hk : k ≤ 0xffffffffffffffff := h
  have hInt : Recovers (Decoder.intIn 0 0xffffffffffffffff) n (.int k) k :=
    intIn ⟨by omega, by omega⟩ ⟨by omega, by omega⟩
  exact ⟨fun d => by simp [Decoder.nat64, Datum.nat, hInt.reads d], hInt.fits⟩

end Recovers

end Decoder

end FaultBench
