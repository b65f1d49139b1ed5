import Mathlib.Data.List.Nodup
import FaultBench.Config.Kinds

/-!
# Entries of configurations

What an entry means is said here without a look at the list that is worked on: which built-in kind
it changes (`KindEntry.base?`), what it takes a kind for (`KindEntry.Shapes`), and why it is
refused after the entries before it (`KindEntry.Refused`). `Config.meant` are the kinds that
entries describe, and `Fitting` entries are those of which none is refused.

Main statements: `accepted_or_refused`, and `addTo_of_accepted` with `addTo_of_refused`, by which
adding an accepted entry leads from the kinds that the entries before describe to those that it
describes with them.
-/

namespace FaultBench

theorem FaultClass.ofCanonicalId?_eq_some_iff {s : String} {f : FaultClass} :
    ofCanonicalId? s = some f ↔ f.canonicalId.text = s := by
  constructor
  · intro h
    simpa using List.find?_some h
  · rintro rfl
    cases f <;> rfl

theorem FaultClass.canonicalId_inj {f g : FaultClass} (h : f.canonicalId = g.canonicalId) :
    f = g := by
  have hf := ofCanonicalId?_eq_some_iff.mpr (congrArg KindId.text h)
  exact Option.some.inj (hf.symm.trans (ofCanonicalId?_eq_some_iff.mpr rfl))

theorem KindId.text_of_ofString {s : String} {id : KindId} (h : ofString s = .ok id) :
    id.text = s := by
  unfold ofString at h
  split at h
  · cases h
  · split at h
    · cases h
    · cases h
      rfl

/-! ## What an entry sets -/

/-- The variant `w` is `v` with what the patch sets. -/
structure VariantPatch.Sets (p : VariantPatch) (v w : Variant) : Prop where
  allocSize : w.allocSize = p.allocSize.getD v.allocSize
  bufferSize : w.bufferSize = p.bufferSize.getD v.bufferSize
  overflowBy : w.overflowBy = p.overflowBy.getD v.overflowBy
  callDepth : w.callDepth = p.callDepth.getD v.callDepth
  leakCount : w.leakCount = p.leakCount.getD v.leakCount
  access : w.access = p.access.getD v.access
  spinForever : w.spinForever = p.spinForever.getD v.spinForever

theorem VariantPatch.sets_apply (p : VariantPatch) (v : Variant) : p.Sets v (p.apply v) :=
  ⟨rfl, rfl, rfl, rfl, rfl, rfl, rfl⟩

theorem VariantPatch.Sets.eq {p : VariantPatch} {v w : Variant} (h : p.Sets v w) :
    w = p.apply v := by
  obtain ⟨⟩ := w
  simp only [apply, Variant.mk.injEq]
  exact ⟨h.allocSize, h.bufferSize, h.overflowBy, h.callDepth, h.leakCount, h.access, h.spinForever⟩

namespace KindEntry

/-- Whatever its id, the kind `k` is `base` with what the entry sets. -/
structure Shapes (e : KindEntry) (base k : Kind) : Prop where
  faultClass : k.faultClass = base.faultClass
  constructs : k.constructs = base.constructs
  pattern : k.signature.pattern = e.signature.getD base.signature.pattern
  mode : k.signature.mode = e.matchMode.getD base.signature.mode
  variant : e.variant.Sets base.variant k.variant

/-- The class of the built-in kind that an entry changes, where there are built-in kinds. -/
def base? (builtins : Bool) (e : KindEntry) : Option FaultClass :=
  if builtins then FaultClass.ofCanonicalId? e.id else none

/-- An entry that changes no built-in kind is for a kind of its own. -/
def isNew (builtins : Bool) (e : KindEntry) : Bool := (e.base? builtins).isNone

/-- The class that an entry gives, or that its id is known for. -/
def class? (e : KindEntry) : Option FaultClass :=
  e.faultClass.or (FaultClass.ofCanonicalId? e.id)

/-- The kind that an entry describes by itself. -/
def newKind? (e : KindEntry) : Option Kind :=
  match KindId.ofString? e.id, e.class? with
  | some id, some f => some { e.apply (.builtin f) with id := id }
  | _, _ => none

/-- Why an entry is refused after the entries `before`. -/
inductive Refused (builtins : Bool) (before : List KindEntry) (e : KindEntry) : SetupError → Prop
  | badId {flaw : KindIdFlaw} (h : KindId.ofString e.id = .error flaw) :
      Refused builtins before e (.invalidKindId e.id flaw)
  | repeated {id : KindId} (hid : KindId.ofString e.id = .ok id)
      (h : e.id ∈ before.map KindEntry.id) : Refused builtins before e (.duplicateKind id)
  | otherClass {id : KindId} {f g : FaultClass} (hid : KindId.ofString e.id = .ok id)
      (hFresh : e.id ∉ before.map KindEntry.id) (hBase : e.base? builtins = some f)
      (hClass : e.faultClass = some g) (hNe : g ≠ f) :
      Refused builtins before e (.config (.otherClass id f g))
  | classless {id : KindId} (hid : KindId.ofString e.id = .ok id)
      (hFresh : e.id ∉ before.map KindEntry.id) (hBase : e.base? builtins = none)
      (hClass : e.class? = none) : Refused builtins before e (.config (.needsClass id))

/-- Nothing is wrong with an entry after the entries `before`. -/
structure Accepted (builtins : Bool) (before : List KindEntry) (e : KindEntry) : Prop where
  id : ∃ id, KindId.ofString e.id = .ok id
  fresh : e.id ∉ before.map KindEntry.id
  sameClass : ∀ f g, e.base? builtins = some f → e.faultClass = some g → g = f
  classed : e.base? builtins = none → e.class? ≠ none

variable {b : Bool} {before : List KindEntry} {e : KindEntry} {id : KindId} {f : FaultClass}

theorem base?_eq_some_iff : e.base? b = some f ↔ b = true ∧ f.canonicalId.text = e.id := by
  cases b <;> simp [base?, FaultClass.ofCanonicalId?_eq_some_iff]

theorem isNew_iff : e.isNew b = true ↔ e.base? b = none := Option.isNone_iff_eq_none

theorem shapes_apply (e : KindEntry) (base : Kind) (id : KindId) :
    e.Shapes base { e.apply base with id := id } :=
  ⟨rfl, rfl, rfl, rfl, e.variant.sets_apply base.variant⟩

theorem newKind?_eq (hid : KindId.ofString e.id = .ok id) (hf : e.class? = some f) :
    e.newKind? = some { e.apply (.builtin f) with id := id } := by
  simp [newKind?, KindId.ofString?, hid, hf, Except.toOption]

theorem Shapes.eq {base k : Kind} (h : e.Shapes base k) (hid : k.id = id) :
    k = { e.apply base with id := id } := by
  obtain ⟨_, _, _, ⟨_, _⟩, _⟩ := k
  simp only [apply, Kind.mk.injEq, Signature.mk.injEq]
  exact ⟨hid, h.faultClass, h.constructs, ⟨h.pattern, h.mode⟩, h.variant.eq⟩

theorem newKind?_eq_some {k : Kind} (hf : e.class? = some f) (h : e.newKind? = some k) :
    ∃ id, KindId.ofString e.id = .ok id ∧ { e.apply (.builtin f) with id := id } = k := by
  cases hid : KindId.ofString e.id with
  | error flaw => simp [newKind?, KindId.ofString?, hid, Except.toOption] at h
  | ok id => exact ⟨id, rfl, Option.some.inj ((newKind?_eq hid hf).symm.trans h)⟩

theorem id_of_newKind? {k : Kind} (h : e.newKind? = some k) : k.id.text = e.id := by
  unfold newKind? KindId.ofString? at h
  split at h
  next id f hid _ =>
    cases h
    cases hString : KindId.ofString e.id with
    | error flaw => simp [hString, Except.toOption] at hid
    | ok id' =>
        obtain rfl : id' = id := by simpa [hString, Except.toOption] using hid
        exact KindId.text_of_ofString hString
  next => cases h

theorem accepted_or_refused (b : Bool) (before : List KindEntry) (e : KindEntry) :
    e.Accepted b before ∨ ∃ error, e.Refused b before error := by
  cases hid : KindId.ofString e.id with
  | error flaw => exact .inr ⟨_, .badId hid⟩
  | ok id =>
      by_cases hFresh : e.id ∈ before.map KindEntry.id
      · exact .inr ⟨_, .repeated hid hFresh⟩
      cases hBase : e.base? b with
      | none =>
          cases hClass : e.class? with
          | none => exact .inr ⟨_, .classless hid hFresh hBase hClass⟩
          | some g => exact .inl ⟨⟨id, hid⟩, hFresh, by simp [hBase], by simp [hClass]⟩
      | some f =>
          cases hClass : e.faultClass with
          | none => exact .inl ⟨⟨id, hid⟩, hFresh, by simp [hClass], by simp [hBase]⟩
          | some g =>
              by_cases hNe : g = f
              · exact .inl ⟨⟨id, hid⟩, hFresh, by simp [hBase, hClass, hNe], by simp [hBase]⟩
              · exact .inr ⟨_, .otherClass hid hFresh hBase hClass hNe⟩

theorem Accepted.not_refused (h : e.Accepted b before) (error : SetupError) :
    ¬ e.Refused b before error := by
  rintro (hid | ⟨-, hTaken⟩ | ⟨-, -, hBase, hClass, hNe⟩ | ⟨-, -, hBase, hClass⟩)
  · obtain ⟨id, hid'⟩ := h.id
    cases hid.symm.trans hid'
  · exact h.fresh hTaken
  · exact hNe (h.sameClass _ _ hBase hClass)
  · exact h.classed hBase hClass

end KindEntry

/-! ## What entries describe -/

namespace Config

/-- The built-in kind of a class, with the changes of the entry under its id. -/
def builtinKind (es : List KindEntry) (f : FaultClass) : Kind :=
  match es.find? (·.id == f.canonicalId.text) with
  | some e => e.apply (.builtin f)
  | none => .builtin f

/-- The kinds that entries describe: the built-in ones, if there are any, and then those of the
entries that change none of them. -/
def meant (builtins : Bool) (es : List KindEntry) : List Kind :=
  (if builtins then FaultClass.all.map (builtinKind es) else []) ++
    (es.filter (·.isNew builtins)).filterMap KindEntry.newKind?

variable {b : Bool} {es before : List KindEntry} {e : KindEntry} {id : KindId} {f : FaultClass}
  {k : Kind}

theorem builtinKind_id (es : List KindEntry) (f : FaultClass) :
    (builtinKind es f).id = f.canonicalId := by
  unfold builtinKind
  split <;> rfl

theorem builtinKind_of_unnamed (h : f.canonicalId.text ∉ es.map KindEntry.id) :
    builtinKind es f = .builtin f := by
  have hNone : es.find? (·.id == f.canonicalId.text) = none := by
    rw [List.find?_eq_none]
    intro e he hid
    exact h (List.mem_map.mpr ⟨e, he, by simpa using hid⟩)
  rw [builtinKind, hNone]

theorem builtinKind_append (hFresh : e.id ∉ es.map KindEntry.id) (f : FaultClass) :
    builtinKind (es ++ [e]) f =
      if f.canonicalId.text = e.id then e.apply (.builtin f) else builtinKind es f := by
  split
  next hid =>
    have hNone : es.find? (·.id == e.id) = none := by
      rw [List.find?_eq_none]
      intro e' he' hEq
      exact hFresh (List.mem_map.mpr ⟨e', he', by simpa using hEq⟩)
    simp [builtinKind, List.find?_append, hid, hNone]
  next hid =>
    have hNot : (e.id == f.canonicalId.text) = false := beq_false_of_ne (Ne.symm hid)
    simp [builtinKind, List.find?_append, hNot]

theorem mem_meant : k ∈ meant b es ↔
    (b = true ∧ ∃ f, builtinKind es f = k) ∨
      ∃ e ∈ es, e.base? b = none ∧ e.newKind? = some k := by
  have hAll : ∀ f, f ∈ FaultClass.all := FaultClass.mem_all
  cases b <;>
    simp [meant, List.mem_filterMap, List.mem_filter, KindEntry.isNew_iff, hAll, and_assoc]

/-- Of the kinds that entries describe, only a built-in one can have an id that none of them has,
and it is as it was. -/
theorem eq_builtin_of_mem_meant (hFresh : k.id.text ∉ es.map KindEntry.id) (hk : k ∈ meant b es) :
    b = true ∧ ∃ f, f.canonicalId = k.id ∧ k = .builtin f := by
  rcases mem_meant.mp hk with ⟨hb, f, rfl⟩ | ⟨e, he, -, hNew⟩
  · rw [builtinKind_id] at hFresh ⊢
    exact ⟨hb, f, rfl, builtinKind_of_unnamed hFresh⟩
  · exact absurd (List.mem_map.mpr ⟨e, he, (KindEntry.id_of_newKind? hNew).symm⟩) hFresh

/-- Under the id of a further entry stands the built-in kind that it changes, or nothing. -/
theorem find?_meant (hid : id.text = e.id) (hFresh : e.id ∉ before.map KindEntry.id) :
    (meant b before).find? (·.id == id) = (e.base? b).map Kind.builtin := by
  cases hBase : e.base? b with
  | none =>
      rw [Option.map_none, List.find?_eq_none]
      intro k hk hEq
      obtain rfl : k.id = id := by simpa using hEq
      obtain ⟨hb, f, hf, -⟩ := eq_builtin_of_mem_meant (hid ▸ hFresh) hk
      have hSome := KindEntry.base?_eq_some_iff.mpr ⟨hb, (congrArg KindId.text hf).trans hid⟩
      cases hBase.symm.trans hSome
  | some f =>
      obtain ⟨hb, hf⟩ := KindEntry.base?_eq_some_iff.mp hBase
      have hCanonical : f.canonicalId = id := KindId.ext_text (hf.trans hid.symm)
      have hMem : Kind.builtin f ∈ meant b before :=
        mem_meant.mpr (.inl ⟨hb, f, builtinKind_of_unnamed (hf ▸ hFresh)⟩)
      have hFound : ((meant b before).find? (·.id == id)).isSome = true :=
        List.find?_isSome.mpr ⟨_, hMem, beq_iff_eq.mpr hCanonical⟩
      obtain ⟨k, hk⟩ := Option.isSome_iff_exists.mp hFound
      obtain rfl : k.id = id := by simpa using List.find?_some hk
      obtain ⟨-, g, hg, rfl⟩ :=
        eq_builtin_of_mem_meant (hid ▸ hFresh) (List.mem_of_find?_eq_some hk)
      rw [hk, FaultClass.canonicalId_inj (hCanonical.trans hg.symm), Option.map_some]

/-- Changing the built-in kind of an entry leads to what is described with the entry. -/
theorem change_meant (hid : id.text = e.id) (hFresh : e.id ∉ before.map KindEntry.id)
    (hBase : e.base? b = some f) :
    KindEntry.addTo.change e id (meant b before) = meant b (before ++ [e]) := by
  obtain ⟨rfl, hf⟩ := KindEntry.base?_eq_some_iff.mp hBase
  have hOld : e.isNew true = false := by simp [KindEntry.isNew, hBase]
  have hNew : ∀ k ∈ (before.filter (·.isNew true)).filterMap KindEntry.newKind?, k.id ≠ id := by
    rintro k hk rfl
    obtain ⟨e', he', hKind⟩ := List.mem_filterMap.mp hk
    have hEq : e'.id = e.id := (KindEntry.id_of_newKind? hKind).symm.trans hid
    exact hFresh (List.mem_map.mpr ⟨e', (List.mem_filter.mp he').1, hEq⟩)
  simp only [KindEntry.addTo.change, meant, if_true, List.map_append, List.filter_append,
    List.filter_cons_of_neg (Bool.eq_false_iff.mp hOld), List.filter_nil, List.append_nil,
    List.map_map]
  congr 1
  · refine List.map_congr_left fun g _ => ?_
    rw [Function.comp_apply, builtinKind_append hFresh, builtinKind_id]
    by_cases hg : g.canonicalId.text = e.id
    · have hUnnamed : g.canonicalId.text ∉ before.map KindEntry.id := hg ▸ hFresh
      rw [if_pos (KindId.ext_text (hg.trans hid.symm)), if_pos hg, builtinKind_of_unnamed hUnnamed]
    · rw [if_neg (fun h => hg ((congrArg KindId.text h).trans hid)), if_neg hg]
  · exact (List.map_congr_left fun k hk => if_neg (hNew k hk)).trans (List.map_id' _)

/-- A kind of its own behind all others is what is described with the entry. -/
theorem append_meant (hid : KindId.ofString e.id = .ok id)
    (hFresh : e.id ∉ before.map KindEntry.id) (hBase : e.base? b = none)
    (hClass : e.class? = some f) :
    meant b before ++ [{ e.apply (.builtin f) with id := id }] = meant b (before ++ [e]) := by
  have hNew : e.isNew b = true := KindEntry.isNew_iff.mpr hBase
  have hOwn : b = true → FaultClass.all.map (builtinKind (before ++ [e])) =
      FaultClass.all.map (builtinKind before) := by
    intro hb
    refine List.map_congr_left fun g _ => ?_
    rw [builtinKind_append hFresh, if_neg]
    intro hg
    have hSome := KindEntry.base?_eq_some_iff.mpr ⟨hb, hg⟩
    cases hBase.symm.trans hSome
  have hLast : [e].filterMap KindEntry.newKind? = [{ e.apply (.builtin f) with id := id }] := by
    rw [List.filterMap_cons_some (KindEntry.newKind?_eq hid hClass), List.filterMap_nil]
  simp only [meant, List.filter_append, List.filter_cons_of_pos hNew, List.filter_nil,
    List.filterMap_append, hLast, List.append_assoc]
  cases b with
  | false => rfl
  | true => rw [if_pos rfl, if_pos rfl, hOwn rfl]

end Config

namespace KindEntry

variable {b : Bool} {before : List KindEntry} {e : KindEntry} {id : KindId} {error : SetupError}

/-- Adding an accepted entry to the kinds that the entries before it describe leads to those that it
describes with them. -/
theorem addTo_of_accepted (h : e.Accepted b before) (hid : KindId.ofString e.id = .ok id) :
    e.addTo id (Config.meant b before) = .ok (Config.meant b (before ++ [e])) := by
  have hText := KindId.text_of_ofString hid
  unfold addTo
  rw [Config.find?_meant hText h.fresh]
  cases hBase : e.base? b with
  | none =>
      obtain ⟨f, hClass⟩ := Option.ne_none_iff_exists'.mp (h.classed hBase)
      have hOr : e.faultClass.or (FaultClass.ofCanonicalId? id.text) = some f := hText ▸ hClass
      simp only [Option.map_none, hOr]
      rw [Config.append_meant hid h.fresh hBase hClass]
  | some f =>
      simp only [Option.map_some, Config.change_meant hText h.fresh hBase]
      cases hClass : e.faultClass with
      | none => rfl
      | some g => exact if_pos (h.sameClass f g hBase hClass)

/-- Of an entry that is refused, the id is no id or taken, or adding it fails. -/
theorem addTo_of_refused (h : e.Refused b before error) (hid : KindId.ofString e.id = .ok id)
    (hFresh : e.id ∉ before.map KindEntry.id) :
    e.addTo id (Config.meant b before) = .error error := by
  have hText := KindId.text_of_ofString hid
  unfold addTo
  rw [Config.find?_meant hText hFresh]
  rcases h with hid' | ⟨-, hTaken⟩ | ⟨hid', -, hBase, hClass, hNe⟩ | ⟨hid', -, hBase, hClass⟩
  · cases hid.symm.trans hid'
  · exact absurd hTaken hFresh
  · obtain rfl := Except.ok.inj (hid.symm.trans hid')
    rw [hBase, hClass]
    exact if_neg hNe
  · obtain rfl := Except.ok.inj (hid.symm.trans hid')
    have hOr : e.faultClass.or (FaultClass.ofCanonicalId? id.text) = none := hText ▸ hClass
    simp only [hBase, Option.map_none, hOr]

end KindEntry

end FaultBench
