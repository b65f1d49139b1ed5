import FaultBench.Exchange.Program
import FaultBench.Exchange.Report
import Mathlib.Tactic

/-!
# Ids in what was read

An id is read from the texts of a small grammar, and from nothing else
(`KindId.decoder_eq_some_iff`). So each id in an error, a kind, a program, a manifest or a report
that was read is a text of that grammar, and it stands in the data that were read: `Datum.HoldsId`.
-/

namespace FaultBench

/-! ## The grammar of ids -/

namespace KindId

/-- A text of at least one character, each of them a small letter, a digit, a hyphen or an
underscore. -/
def Grammar (s : String) : Prop :=
  s ≠ "" ∧ ∀ c ∈ s.toList, ('a' ≤ c ∧ c ≤ 'z') ∨ ('0' ≤ c ∧ c ≤ '9') ∨ c = '-' ∨ c = '_'

theorem isIdChar_iff {c : Char} : isIdChar c = true ↔
    ('a' ≤ c ∧ c ≤ 'z') ∨ ('0' ≤ c ∧ c ≤ '9') ∨ c = '-' ∨ c = '_' := by
  have hLower : c.isLower = true ↔ 'a' ≤ c ∧ c ≤ 'z' :=
    (Bool.and_eq_true_iff).trans (and_congr decide_eq_true_iff decide_eq_true_iff)
  have hDigit : c.isDigit = true ↔ '0' ≤ c ∧ c ≤ '9' :=
    (Bool.and_eq_true_iff).trans (and_congr decide_eq_true_iff decide_eq_true_iff)
  simp only [isIdChar, Bool.or_eq_true, hLower, hDigit, beq_iff_eq, or_assoc]

theorem grammar_text (id : KindId) : Grammar id.text :=
  ⟨id.ne_empty, fun c hc => isIdChar_iff.mp (id.chars c hc)⟩

theorem ofString?_eq_some_iff {s : String} {id : KindId} :
    ofString? s = some id ↔ Grammar s ∧ id.text = s := by
  constructor
  · intro h
    have hText : id.text = s := by
      unfold ofString? ofString at h
      split at h
      · cases h
      · split at h
        · cases h
        · cases h
          rfl
    exact ⟨hText ▸ id.grammar_text, hText⟩
  · rintro ⟨-, rfl⟩
    rw [ofString?, ofString_text]
    rfl

/-- An id is read from the texts of the grammar, each of them its own, and from no other data. -/
theorem decoder_eq_some_iff {d : Dialect} {x : Datum} {id : KindId} :
    decoder d x = some id ↔ ∃ s, x = .text s ∧ Grammar s ∧ id.text = s := by
  constructor
  · intro h
    cases x with
    | text s => exact ⟨s, rfl, ofString?_eq_some_iff.mp h⟩
    | _ => cases h
  · rintro ⟨s, rfl, h⟩
    exact ofString?_eq_some_iff.mpr h

end KindId

/-! ## Parts of data -/

namespace Datum

/-- The datum is an item of a list or the value of a field. -/
inductive Part (x : Datum) : Datum → Prop
  | item {xs : List Datum} (h : x ∈ xs) : Part x (.list xs)
  | value {kvs : List (String × Datum)} {name : String} (h : (name, x) ∈ kvs) : Part x (.fields kvs)

/-- The text stands somewhere in the datum, not as a name. -/
inductive Holds (s : String) : Datum → Prop
  | here : Holds s (.text s)
  | part {x y : Datum} (hPart : Part y x) (h : Holds s y) : Holds s x

/-- The id stands in the datum, written as its grammar asks for. -/
def HoldsId (x : Datum) (id : KindId) : Prop := KindId.Grammar id.text ∧ x.Holds id.text

variable {x y : Datum} {id : KindId}

theorem HoldsId.of_decoder {d : Dialect} (h : KindId.decoder d x = some id) : x.HoldsId id := by
  obtain ⟨s, rfl, hGrammar, rfl⟩ := KindId.decoder_eq_some_iff.mp h
  exact ⟨hGrammar, .here⟩

theorem HoldsId.of_part (hPart : Part y x) (h : y.HoldsId id) : x.HoldsId id :=
  ⟨h.1, .part hPart h.2⟩

end Datum

open Datum

theorem exists_of_mem_mapM {α β : Type} {f : α → Option β} {xs : List α} {ys : List β} {y : β}
    (h : xs.mapM f = some ys) (hy : y ∈ ys) : ∃ x ∈ xs, f x = some y := by
  induction xs generalizing ys with
  | nil =>
      cases h
      cases hy
  | cons x xs ih =>
      simp only [List.mapM_cons, Option.bind_eq_bind, Option.bind_eq_some_iff, Option.pure_def,
        Option.some.injEq] at h
      obtain ⟨z, hz, zs, hzs, rfl⟩ := h
      rcases List.mem_cons.mp hy with rfl | hy
      · exact ⟨x, List.mem_cons_self, hz⟩
      · obtain ⟨w, hw, hRead⟩ := ih hzs hy
        exact ⟨w, List.mem_cons_of_mem x hw, hRead⟩

theorem Decoder.exists_part_of_list {α : Type} {f : Decoder α} {d : Dialect} {x : Datum}
    {l : List α} {a : α} (h : f.list d x = some l) (ha : a ∈ l) :
    ∃ y, Part y x ∧ f d y = some a := by
  cases x with
  | list xs =>
      obtain ⟨y, hy, hRead⟩ := exists_of_mem_mapM h ha
      exact ⟨y, .item hy, hRead⟩
  | _ => cases h

namespace Slots

variable {d : Dialect} {closed : Bool} {names : List String} {x y : Datum} {s : Slots}
  {name : String}

theorem mem_of_atMostOnce {kvs : List (String × Datum)}
    (h : atMostOnce kvs name = some (some y)) : (name, y) ∈ kvs := by
  unfold atMostOnce at h
  split at h
  · cases h
  · next kv hOne =>
      cases h
      have hMem : kv ∈ kvs.filter (·.1 == name) := hOne ▸ List.mem_singleton_self kv
      obtain ⟨hMem, hName⟩ := List.mem_filter.mp hMem
      rwa [← beq_iff_eq.mp hName]
  · cases h

theorem mem_values_of_get (h : s.get name = some y) : (name, some y) ∈ s.values := by
  rw [get, Option.join_eq_some_iff, List.lookup_eq_some_iff] at h
  obtain ⟨before, after, hValues, -⟩ := h
  rw [hValues]
  exact List.mem_append_right before List.mem_cons_self

/-- What is found for a field of a record is a part of the record. -/
theorem part_of_get (h : Slots.of d closed names x = some s) (hGet : s.get name = some y) :
    Part y x := by
  have hValue := mem_values_of_get hGet
  cases x with
  | fields kvs =>
      simp only [Slots.of, ofFields, Option.bind_eq_bind] at h
      split at h
      · cases h
      · obtain ⟨values, hValues, hs⟩ := Option.bind_eq_some_iff.mp h
        cases hs
        obtain ⟨found, -, hFound⟩ := exists_of_mem_mapM hValues hValue
        obtain ⟨o, hOnce, hEq⟩ := Option.map_eq_some_iff.mp hFound
        cases hEq
        exact .value (mem_of_atMostOnce hOnce)
  | list xs =>
      simp only [Slots.of, ofList] at h
      split at h
      · cases h
      · cases h
        have hGiven := (List.of_mem_zip hValue).2
        rcases List.mem_append.mp hGiven with hItem | hNone
        · obtain ⟨z, hz, hEq⟩ := List.mem_map.mp hItem
          cases hEq
          exact .item hz
        · cases List.eq_of_mem_replicate hNone
  | _ => cases h

variable {α : Type} {a : α} {f : Decoder α}

/-- The value of a field that must be given is read from a part of the record. -/
theorem exists_part_of_required (h : Slots.of d closed names x = some s)
    (hField : s.required name f = some a) : ∃ y, Part y x ∧ f s.dialect y = some a := by
  obtain ⟨y, hGet, hRead⟩ := Option.bind_eq_some_iff.mp hField
  exact ⟨y, part_of_get h hGet, hRead⟩

theorem holdsId_of_required {id : KindId} (h : Slots.of d closed names x = some s)
    (hField : s.required name KindId.decoder = some id) : x.HoldsId id := by
  obtain ⟨y, hPart, hRead⟩ := exists_part_of_required h hField
  exact (HoldsId.of_decoder hRead).of_part hPart

end Slots

/-! ## Kinds, programs and manifests -/

variable {d : Dialect} {x : Datum}

theorem Kind.holdsId {k : Kind} (h : decoder d x = some k) : x.HoldsId k.id := by
  simp only [decoder, Option.bind_eq_bind, Option.bind_eq_some_iff, Option.pure_def,
    Option.some.injEq] at h
  obtain ⟨s, hs, id, hId, -, -, -, -, -, -, -, -, rfl⟩ := h
  exact Slots.holdsId_of_required hs hId

theorem Program.holdsId {p : Program} (h : decoder d x = some p) : x.HoldsId p.kind := by
  simp only [decoder, Option.bind_eq_bind, Option.bind_eq_some_iff, Option.pure_def,
    Option.some.injEq] at h
  obtain ⟨s, hs, id, hId, -, -, -, -, -, -, -, -, -, -, rfl⟩ := h
  exact Slots.holdsId_of_required hs hId

theorem ManifestEntry.holdsId {e : ManifestEntry} (h : decoder d x = some e) :
    x.HoldsId e.kind := by
  simp only [decoder, Option.bind_eq_bind, Option.bind_eq_some_iff, Option.pure_def,
    Option.some.injEq] at h
  obtain ⟨s, hs, id, hId, -, -, -, -, -, -, rfl⟩ := h
  exact Slots.holdsId_of_required hs hId

theorem Manifest.holdsId {m : Manifest} (h : decoder d x = some m) :
    ∀ e ∈ m.programs, x.HoldsId e.kind := by
  simp only [decoder, Option.bind_eq_bind, Option.bind_eq_some_iff, Option.pure_def,
    Option.some.injEq] at h
  obtain ⟨s, hs, version, -, programs, hPrograms, rfl⟩ := h
  intro e he
  obtain ⟨y, hPart, hList⟩ := Slots.exists_part_of_required hs hPrograms
  obtain ⟨z, hPart', hEntry⟩ := Decoder.exists_part_of_list hList he
  exact ((ManifestEntry.holdsId hEntry).of_part hPart').of_part hPart

/-! ## Errors and reports -/

namespace RunError

/-- The kind that an error is recorded for. -/
def kind? : RunError → Option KindId
  | .compile kind .. => some kind
  | .timeout kind .. => some kind
  | .toolUnavailable .. => none
  | .workspace kind _ => some kind
  | .cancelled kind => some kind
  | .internal kind _ => some kind

theorem holdsId_of_ofTag {tag : String} {e : RunError} (h : ofTag tag x = some e) :
    ∀ id ∈ e.kind?, x.HoldsId id := by
  unfold ofTag at h
  split at h
  case h_1 | h_2 =>
    simp only [Option.bind_eq_bind, Option.bind_eq_some_iff, Option.pure_def,
      Option.some.injEq] at h
    obtain ⟨s, hs, kind, hKind, _, -, _, -, rfl⟩ := h
    rintro _ ⟨⟩
    exact Slots.holdsId_of_required hs hKind
  case h_3 =>
    simp only [Option.bind_eq_bind, Option.bind_eq_some_iff, Option.pure_def,
      Option.some.injEq] at h
    obtain ⟨s, hs, _, -, _, -, rfl⟩ := h
    exact nofun
  case h_4 | h_6 =>
    simp only [Option.bind_eq_bind, Option.bind_eq_some_iff, Option.pure_def,
      Option.some.injEq] at h
    obtain ⟨s, hs, kind, hKind, _, -, rfl⟩ := h
    rintro _ ⟨⟩
    exact Slots.holdsId_of_required hs hKind
  case h_5 =>
    simp only [Option.bind_eq_bind, Option.bind_eq_some_iff, Option.pure_def,
      Option.some.injEq] at h
    obtain ⟨s, hs, kind, hKind, rfl⟩ := h
    rintro _ ⟨⟩
    exact Slots.holdsId_of_required hs hKind
  case h_7 => cases h

/-- What stands in a part of a record stands in the whole of it. -/
theorem holds_of_subset {s : String} {kvs kvs' : List (String × Datum)} (hSub : kvs ⊆ kvs')
    (h : (Datum.fields kvs).Holds s) : (Datum.fields kvs').Holds s := by
  cases h with
  | part hPart h =>
      cases hPart with
      | value hMem => exact .part (.value (hSub hMem)) h

theorem holdsId {e : RunError} (h : decoder d x = some e) : ∀ id ∈ e.kind?, x.HoldsId id := by
  intro id hId
  unfold decoder at h
  split at h
  · cases h
  · split at h
    · next kvs =>
        split at h
        · obtain ⟨hGrammar, hHolds⟩ := holdsId_of_ofTag h id hId
          exact ⟨hGrammar, holds_of_subset List.filter_sublist.subset hHolds⟩
        · cases h
    · next tag rest =>
        obtain ⟨hGrammar, hHolds⟩ := holdsId_of_ofTag h id hId
        cases hHolds with
        | part hPart hHolds =>
            cases hPart with
            | item hMem =>
                exact ⟨hGrammar, .part (.item (List.mem_cons_of_mem _ hMem)) hHolds⟩
    · cases h

end RunError

theorem Verdict.holdsId {v : Verdict} (h : decoder d x = some v) : x.HoldsId v.kind := by
  unfold decoder at h
  split at h
  · next kvs =>
      obtain ⟨s, hs, h⟩ := Option.bind_eq_some_iff.mp h
      have hRecord : Slots.of d false fieldNames (.fields kvs) = some s := hs
      dsimp only at h
      split at h
      · cases h
      · obtain ⟨_, -, h⟩ := Option.bind_eq_some_iff.mp h
        obtain ⟨tag, -, h⟩ := Option.bind_eq_some_iff.mp h
        obtain ⟨kind, hKind, h⟩ := Option.bind_eq_some_iff.mp h
        simp only [Option.bind_eq_bind, Option.bind_eq_some_iff, Option.pure_def,
          Option.some.injEq] at h
        obtain ⟨_, -, _, -, _, -, _, -, _, -, _, -, _, -, _, -, rfl⟩ := h
        exact Slots.holdsId_of_required hRecord hKind
  · cases h

theorem Report.holdsId {r : Report} (h : decoder d x = some r) :
    ∀ id ∈ r.kinds, x.HoldsId id := by
  simp only [decoder, Option.bind_eq_bind, Option.bind_eq_some_iff, Option.pure_def,
    Option.some.injEq] at h
  obtain ⟨s, hs, _, -, _, -, verdicts, hVerdicts, _, -, _, -, rfl⟩ := h
  intro id hId
  obtain ⟨v, hv, rfl⟩ := List.mem_map.mp hId
  obtain ⟨y, hPart, hList⟩ := Slots.exists_part_of_required hs hVerdicts
  obtain ⟨z, hPart', hVerdict⟩ := Decoder.exists_part_of_list hList hv
  exact ((Verdict.holdsId hVerdict).of_part hPart').of_part hPart

end FaultBench
