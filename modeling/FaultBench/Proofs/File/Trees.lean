import FaultBench.File.Tree
import FaultBench.Proofs.Fallible
import FaultBench.Proofs.File.Paths

/-!
# What actions change

`Tree.Changes written made t t'` says what may be different in a tree after an action: files were
written, the last one first in the list, and new directories were made. All else is as it was. What
a path led to it still leads to (`Changes.target_eq`). A file is written as a whole or not at all
(`changes_write`), and one directory is made at a time (`changes_createDirectory`).
-/

namespace FaultBench.File

namespace Tree

variable {t t' t'' : Tree} {l l' : Location} {p q : String}

/-! ## Entries -/

@[simp] theorem entry?_nil : t.entry? [] = some .directory := rfl

theorem entry?_of_ne_nil (h : l ≠ []) : t.entry? l = t.entries.lookup l := by
  unfold entry?
  rw [if_neg (by simpa using h)]

@[simp] theorem workingDirectory_put (e : Entry) :
    (t.put l e).workingDirectory = t.workingDirectory := by
  unfold put
  split <;> rfl

theorem lookup_cons_eq (k : Location) (e : Entry) (entries : List (Location × Entry)) :
    ((k, e) :: entries).lookup l = if l = k then some e else entries.lookup l := by
  rw [List.lookup_cons]
  split <;> simp_all

theorem lookup_replace (entries : List (Location × Entry)) (e : Entry) :
    (entries.map fun x => if x.1 == l then (l, e) else x).lookup l' =
      if l' = l then (entries.lookup l).map fun _ => e else entries.lookup l' := by
  induction entries with
  | nil => simp
  | cons x entries ih =>
      obtain ⟨k, e'⟩ := x
      rw [List.map_cons]
      by_cases hk : k = l
      · subst hk
        rw [if_pos (beq_self_eq_true k), lookup_cons_eq, ih, lookup_cons_eq, lookup_cons_eq]
        by_cases hl : l' = k <;> simp [hl]
      · rw [if_neg (by simpa using hk), lookup_cons_eq, ih, lookup_cons_eq, lookup_cons_eq]
        by_cases hl : l' = k
        · subst hl
          simp [hk]
        · simp [hl, Ne.symm hk]

/-- What is put at a location is there, and nothing else is moved. -/
theorem entry?_put (h : l ≠ []) (e : Entry) :
    Tree.entry? (t.put l e) l' = if l' = l then some e else t.entry? l' := by
  by_cases hl : l' = []
  · subst hl
    simp [Ne.symm h]
  · rw [entry?_of_ne_nil hl, entry?_of_ne_nil hl, put]
    split
    next hThere =>
      obtain ⟨e', he'⟩ := Option.isSome_iff_exists.mp hThere
      simp only [lookup_replace, he', Option.map_some]
    next hNone =>
      have hNone : t.entries.lookup l = none := Option.not_isSome_iff_eq_none.mp hNone
      rw [List.lookup_append, lookup_cons_eq]
      by_cases hEq : l' = l
      · subst hEq
        rw [hNone, if_pos rfl, Option.none_or, if_pos rfl]
      · simp [hEq]

/-! ## Changes -/

/-- From `t` to `t'`, files of these contents were written, the last one first in the list, and some
directories that were missing were made, at locations that `made` allows. -/
structure Changes (written : List (Location × List UInt8)) (made : Location → Prop)
    (t t' : Tree) : Prop where
  workingDirectory : t'.workingDirectory = t.workingDirectory
  directories : ∀ l, t.entry? l = some .directory → t'.entry? l = some .directory
  files : ∀ l c, written.lookup l = some c → ∃ x, t'.entry? l = some (.file c x)
  others : ∀ l, written.lookup l = none → t'.entry? l = t.entry? l ∨
    made l ∧ t.entry? l = none ∧ t'.entry? l = some .directory

namespace Changes

variable {W W' : List (Location × List UInt8)} {made made' : Location → Prop}

theorem refl (t : Tree) : Changes [] made t t :=
  ⟨rfl, fun _ h => h, nofun, fun _ _ => .inl rfl⟩

theorem mono (h : Changes W made t t') (hMade : ∀ l, made l → made' l) : Changes W made' t t' where
  workingDirectory := h.workingDirectory
  directories := h.directories
  files := h.files
  others l hl := (h.others l hl).imp_right fun ⟨hl, hNone, hNew⟩ => ⟨hMade l hl, hNone, hNew⟩

/-- Of what was written at one place, the last counts. -/
theorem trans (h : Changes W made t t') (h' : Changes W' made t' t'') :
    Changes (W' ++ W) made t t'' where
  workingDirectory := h'.workingDirectory.trans h.workingDirectory
  directories l hl := h'.directories l (h.directories l hl)
  files l c hl := by
    rw [List.lookup_append] at hl
    cases hLast : W'.lookup l with
    | some c' =>
        rw [hLast, Option.some_or] at hl
        exact h'.files l c (hl ▸ hLast)
    | none =>
        rw [hLast, Option.none_or] at hl
        obtain ⟨x, hx⟩ := h.files l c hl
        rcases h'.others l hLast with hSame | ⟨-, hNone, -⟩
        · exact ⟨x, hSame.trans hx⟩
        · rw [hx] at hNone
          cases hNone
  others l hl := by
    rw [List.lookup_append, Option.or_eq_none_iff] at hl
    rcases h.others l hl.2, h'.others l hl.1 with
      ⟨hSame | ⟨hMade, hNone, hNew⟩, hSame' | ⟨hMade', hNone', hNew'⟩⟩
    · exact .inl (hSame'.trans hSame)
    · exact .inr ⟨hMade', hSame ▸ hNone', hNew'⟩
    · exact .inr ⟨hMade, hNone, hSame'.trans hNew⟩
    · rw [hNew] at hNone'
      cases hNone'

end Changes

/-! ## Walks -/

/-- Where a path starts, in a tree with the given working directory. -/
def startOf (workingDirectory : Location) (p : String) : Location :=
  if Path.isAbsolute p then [] else workingDirectory

/-- The names in a path lead to a directory. -/
def Leads (t : Tree) (p : String) (l : Location) : Prop :=
  t.walk (startOf t.workingDirectory p) (Path.names p) = .ok l

/-- No name is a dot or two dots. -/
def IsPlain (n : String) : Prop := n ≠ "." ∧ n ≠ ".."

theorem walk_append (here : Location) (ns ms : List String) :
    t.walk here (ns ++ ms) = (t.walk here ns).bind fun l => t.walk l ms := by
  induction ns generalizing here with
  | nil => rfl
  | cons n ns ih =>
      rw [List.cons_append, walk, walk]
      split
      · exact ih here
      · split
        · exact ih here.dropLast
        · split
          · rfl
          · split
            · rfl
            · rfl
            · exact ih (here ++ [n])

/-- A plain name leads from a directory to the one of that name in it. -/
theorem walk_singleton {n : String} (hPlain : IsPlain n) (h : t.walk l [n] = .ok l') :
    l' = l ++ [n] := by
  rw [walk, if_neg hPlain.1, if_neg hPlain.2] at h
  split at h
  · cases h
  · split at h
    · cases h
    · cases h
    · exact (Except.ok.inj h).symm

/-- Names that never go up lead down, one directory for each of them that is not a dot. -/
theorem walk_eq_append {ns : List String} (hUp : ".." ∉ ns) (h : t.walk l ns = .ok l') :
    l' = l ++ ns.filter (· != ".") := by
  induction ns generalizing l with
  | nil =>
      cases h
      exact (List.append_nil _).symm
  | cons n ns ih =>
      rw [List.mem_cons, not_or] at hUp
      rw [walk, if_neg (Ne.symm hUp.1)] at h
      split at h
      next hDot =>
        rw [ih hUp.2 h, List.filter_cons_of_neg (by simp [hDot])]
      next hDot =>
        split at h
        · cases h
        · split at h
          · cases h
          · cases h
          · rw [ih hUp.2 h, List.filter_cons_of_pos (by simp [hDot]), List.append_assoc]
            rfl

/-- A walk only needs directories. -/
theorem walk_mono
    (hDirectories : ∀ l, t.entry? l = some .directory → t'.entry? l = some .directory)
    {ns : List String} (h : t.walk l ns = .ok l') : t'.walk l ns = .ok l' := by
  induction ns generalizing l with
  | nil => exact h
  | cons n ns ih =>
      rw [walk] at h ⊢
      split at h
      next hDot => rw [if_pos hDot, ih h]
      next hDot =>
        rw [if_neg hDot]
        split at h
        next hUp => rw [if_pos hUp, ih h]
        next hUp =>
          rw [if_neg hUp]
          split at h
          · cases h
          next hLong =>
            rw [if_neg hLong]
            split at h
            · cases h
            · cases h
            next hHere =>
              rw [hDirectories _ hHere]
              exact ih h

theorem Leads.mono {W : List (Location × List UInt8)} {made : Location → Prop}
    (hChanges : Changes W made t t') (h : t.Leads p l) : t'.Leads p l := by
  rw [Leads, hChanges.workingDirectory]
  exact walk_mono hChanges.directories h

theorem Leads.unique (h : t.Leads p l) (h' : t.Leads p l') : l = l' :=
  Except.ok.inj (h.symm.trans h')

/-! ## What paths lead to -/

/-- Why a path leads nowhere in any tree. -/
def pathFlaw? (p : String) : Option IoError :=
  if p.toList.contains '\x00' then some .zeroInName
  else if p = "" then some .notFound
  else if maxPath < p.utf8ByteSize then some .nameTooLong
  else none

/-- What names in a directory lead to, of which `n` is the last. -/
def targetOf (t : Tree) (here : Location) (ns : List String) (n : String) (slash : Bool) :
    Except IoError Target := do
  let parent ← t.walk here ns
  if n = "." then .ok (.directory parent)
  else if n = ".." then .ok (.directory parent.dropLast)
  else if maxName < n.utf8ByteSize then .error .nameTooLong
  else .ok (.name parent n slash)

theorem target_eq (t : Tree) (p : String) : t.target p =
    (pathFlaw? p).elim (match (Path.names p).getLast? with
      | none => .ok (.directory (startOf t.workingDirectory p))
      | some n => t.targetOf (startOf t.workingDirectory p) (Path.names p).dropLast n
          (Path.endsWithSlash p)) .error := by
  unfold target pathFlaw? startOf
  split_ifs <;> rfl

theorem target_of_names_eq_nil (h : Path.names p = []) : t.target p =
    (pathFlaw? p).elim (.ok (.directory (startOf t.workingDirectory p))) .error := by
  rw [target_eq, h]
  rfl

theorem target_of_names_eq {ns : List String} {n : String} (h : Path.names p = ns ++ [n]) :
    t.target p = (pathFlaw? p).elim
      (t.targetOf (startOf t.workingDirectory p) ns n (Path.endsWithSlash p)) .error := by
  rw [target_eq, h, List.getLast?_concat, List.dropLast_concat]

theorem pathFlaw?_eq_none {α : Type} {r x : Except IoError α} (h : (pathFlaw? p).elim r .error = x)
    (hx : ∀ e, x ≠ .error e) : pathFlaw? p = none := by
  cases hFlaw : pathFlaw? p with
  | none => rfl
  | some e =>
      rw [hFlaw] at h
      exact absurd h.symm (hx e)

theorem targetOf_eq_ok {here : Location} {ns : List String} {n : String} {slash : Bool} {x : Target}
    (h : t.targetOf here ns n slash = .ok x) : ∃ parent, t.walk here ns = .ok parent ∧
      (IsPlain n → x = .name parent n slash) ∧ (¬ IsPlain n → ∃ l, x = .directory l) := by
  obtain ⟨parent, hWalk, h⟩ := bind_eq_ok_iff.mp h
  refine ⟨parent, hWalk, ?_⟩
  split at h
  next hDot => exact ⟨fun hPlain => absurd hDot hPlain.1, fun _ => ⟨_, (Except.ok.inj h).symm⟩⟩
  next hDot =>
    split at h
    next hUp => exact ⟨fun hPlain => absurd hUp hPlain.2, fun _ => ⟨_, (Except.ok.inj h).symm⟩⟩
    next hUp =>
      split at h
      · cases h
      · exact ⟨fun _ => (Except.ok.inj h).symm, fun hNot => absurd ⟨hDot, hUp⟩ hNot⟩

/-- A path that ends in a plain name leads to that name in a directory. -/
theorem exists_of_target {ns : List String} {n : String} {x : Target}
    (hNames : Path.names p = ns ++ [n]) (hPlain : IsPlain n) (h : t.target p = .ok x) :
    ∃ parent, t.walk (startOf t.workingDirectory p) ns = .ok parent ∧
      x = .name parent n (Path.endsWithSlash p) := by
  rw [target_of_names_eq hNames] at h
  rw [pathFlaw?_eq_none h (by simp), Option.elim_none] at h
  obtain ⟨parent, hWalk, hName, -⟩ := targetOf_eq_ok h
  exact ⟨parent, hWalk, hName hPlain⟩

/-- A path leads to a name in a directory only if that name is its last. -/
theorem target_eq_name {parent : Location} {n : String} {slash : Bool}
    (h : t.target p = .ok (.name parent n slash)) : ∃ ns, Path.names p = ns ++ [n] ∧ IsPlain n ∧
      t.walk (startOf t.workingDirectory p) ns = .ok parent := by
  rcases List.eq_nil_or_concat (Path.names p) with hNames | ⟨ns, n', hNames⟩
  · rw [target_of_names_eq_nil hNames] at h
    rw [pathFlaw?_eq_none h (by simp)] at h
    cases h
  · rw [List.concat_eq_append] at hNames
    by_cases hPlain : IsPlain n'
    · obtain ⟨parent', hWalk, hEq⟩ := exists_of_target hNames hPlain h
      cases hEq
      exact ⟨ns, hNames, hPlain, hWalk⟩
    · rw [target_of_names_eq hNames] at h
      rw [pathFlaw?_eq_none h (by simp), Option.elim_none] at h
      obtain ⟨-, -, -, hDirectory⟩ := targetOf_eq_ok h
      obtain ⟨l, hEq⟩ := hDirectory hPlain
      cases hEq

/-- What a path leads to it leads to after a change. -/
theorem Changes.target_eq {W : List (Location × List UInt8)} {made : Location → Prop}
    (hChanges : Changes W made t t') {x : Target} (h : t.target p = .ok x) :
    t'.target p = .ok x := by
  rcases List.eq_nil_or_concat (Path.names p) with hNames | ⟨ns, n, hNames⟩
  · rw [target_of_names_eq_nil hNames] at h ⊢
    rwa [hChanges.workingDirectory]
  · rw [List.concat_eq_append] at hNames
    rw [target_of_names_eq hNames] at h ⊢
    have hFlaw := pathFlaw?_eq_none h (by simp)
    rw [hFlaw, Option.elim_none] at h ⊢
    obtain ⟨parent, hWalk, h⟩ := bind_eq_ok_iff.mp h
    rw [hChanges.workingDirectory]
    exact bind_eq_ok_iff.mpr ⟨parent, walk_mono hChanges.directories hWalk, h⟩

/-- The path leads to a name at the location, without asking for a directory. -/
def LeadsTo (t : Tree) (p : String) (l : Location) : Prop :=
  ∃ parent n, t.target p = .ok (.name parent n false) ∧ l = parent ++ [n]

theorem LeadsTo.mono {W : List (Location × List UInt8)} {made : Location → Prop}
    (hChanges : Changes W made t t') (h : t.LeadsTo p l) : t'.LeadsTo p l := by
  obtain ⟨parent, n, hTarget, hl⟩ := h
  exact ⟨parent, n, hChanges.target_eq hTarget, hl⟩

theorem LeadsTo.read {c : List UInt8} {x : Bool} (h : t.LeadsTo p l)
    (hEntry : t.entry? l = some (.file c x)) : t.read p = .ok c := by
  obtain ⟨parent, n, hTarget, rfl⟩ := h
  simp [Tree.read, find, hTarget, hEntry, bind, Except.bind]

/-- A path that ends in a plain name leads to that name in the directory before it. -/
theorem LeadsTo.exists_leads {dir n : String} (h : t.LeadsTo (Path.join dir n) l)
    (hName : Path.IsName n) (hPlain : IsPlain n) : ∃ root, t.Leads dir root ∧ l = root ++ [n] := by
  obtain ⟨parent, n', hTarget, rfl⟩ := h
  have hNames : Path.names (Path.join dir n) = Path.names dir ++ [n] := by
    rw [Path.names_join hName.not_isAbsolute, hName.names_eq]
  obtain ⟨root, hWalk, hEq⟩ := exists_of_target hNames hPlain hTarget
  obtain ⟨rfl, rfl, -⟩ := Target.name.inj hEq
  rw [startOf, Path.isAbsolute_join hName.not_isAbsolute] at hWalk
  exact ⟨parent, hWalk, rfl⟩

/-! ## Writing and making directories -/

/-- A file that can be written is written at the name that its path leads to. -/
theorem changes_write {c : List UInt8} (h : t.write p c = .ok t') :
    ∃ l, t.LeadsTo p l ∧ Changes [(l, c)] (fun _ => False) t t' := by
  have hPut : ∀ {l : Location} {x : Bool}, l ≠ [] → t.entry? l ≠ some .directory →
      Changes [(l, c)] (fun _ => False) t (t.put l (.file c x)) := by
    intro l x hl hFile
    refine ⟨workingDirectory_put _, fun l' hl' => ?_, fun l' c' hl' => ?_, fun l' hl' => ?_⟩
    · have hOther : l' ≠ l := fun hEq => hFile (hEq ▸ hl')
      rw [entry?_put hl, if_neg hOther, hl']
    · rw [List.lookup_cons] at hl'
      split at hl'
      next hEq =>
        cases hl'
        exact ⟨x, by rw [entry?_put hl, if_pos (beq_iff_eq.mp hEq)]⟩
      · cases hl'
    · rw [List.lookup_cons] at hl'
      split at hl'
      · cases hl'
      next hEq => exact .inl (by rw [entry?_put hl, if_neg (beq_eq_false_iff_ne.mp hEq)])
  obtain ⟨x, hTarget, h⟩ := bind_eq_ok_iff.mp h
  split at h
  · cases h
  next parent n slash =>
    cases slash with
    | true => cases h
    | false =>
        rw [if_neg Bool.false_ne_true] at h
        refine ⟨parent ++ [n], ⟨parent, n, hTarget, rfl⟩, ?_⟩
        split at h
        · cases h
        next hFile =>
          cases h
          exact hPut (by simp) (by simp [hFile])
        next hNone =>
          cases h
          exact hPut (by simp) (by simp [hNone])

theorem changes_createDirectory (h : t.createDirectory p = .ok t') :
    ∃ parent n slash, t.target p = .ok (.name parent n slash) ∧
      Changes [] (· = parent ++ [n]) t t' := by
  obtain ⟨x, hTarget, h⟩ := bind_eq_ok_iff.mp h
  split at h
  · cases h
  next parent n slash =>
    refine ⟨parent, n, slash, hTarget, ?_⟩
    split at h
    · cases h
    next hNone =>
      cases h
      have hl : parent ++ [n] ≠ [] := by simp
      refine ⟨workingDirectory_put _, fun l hl' => ?_, nofun, fun l _ => ?_⟩
      · have hOther : l ≠ parent ++ [n] := by
          rintro rfl
          rw [hNone] at hl'
          cases hl'
        rw [entry?_put hl, if_neg hOther, hl']
      · rw [entry?_put hl]
        split
        next hEq => exact .inr ⟨hEq, hEq ▸ hNone, rfl⟩
        · exact .inl rfl

end Tree

end FaultBench.File
