import FaultBench.File.Path
import FaultBench.Proofs.Text.Split

/-!
# Names in paths

What the names in a path are when it is put together or taken apart: those of a joined path
(`names_join`), and those of the path of the parent (`names_parent?`).
-/

namespace FaultBench

namespace Path

variable {p q n : String}

/-- A text that is one name. -/
structure IsName (n : String) : Prop where
  ne_empty : n ≠ ""
  noSlash : '/' ∉ n.toList

theorem isName_of_mem_names (h : n ∈ names p) : IsName n := by
  obtain ⟨hMem, hNe⟩ := List.mem_filter.mp h
  obtain ⟨s, hs, rfl⟩ := List.mem_map.mp hMem
  refine ⟨by simpa using hNe, ?_⟩
  rw [String.toList_ofList]
  exact Text.not_mem_of_mem_splitOn hs

theorem names_slash (p q : String) : names (p ++ "/" ++ q) = names p ++ names q := by
  have hList : (p ++ "/" ++ q).toList = p.toList ++ '/' :: q.toList := by
    simp
  rw [names, hList, Text.splitOn_append_cons, List.map_append, List.filter_append]
  rfl

@[simp] theorem names_empty : names "" = [] := rfl

theorem IsName.names_eq (h : IsName n) : names n = [n] := by
  rw [names, Text.splitOn_eq_singleton h.noSlash]
  simp [h.ne_empty]

theorem IsName.not_isAbsolute (h : IsName n) : isAbsolute n = false := by
  rw [isAbsolute, beq_eq_false_iff_ne]
  intro hHead
  exact h.noSlash (List.mem_of_head? hHead)

theorem IsName.not_endsWithSlash (h : IsName n) : endsWithSlash n = false := by
  rw [endsWithSlash, beq_eq_false_iff_ne]
  intro hLast
  exact h.noSlash (List.mem_of_getLast? hLast)

theorem names_intercalate {ns : List String} (h : ∀ n ∈ ns, IsName n) :
    names ("/".intercalate ns) = ns := by
  induction ns with
  | nil => rfl
  | cons n ns ih =>
      obtain ⟨hn, hns⟩ := List.forall_mem_cons.mp h
      cases ns with
      | nil => rw [String.intercalate_singleton, hn.names_eq]
      | cons n' ns =>
          rw [String.intercalate_cons_cons, names_slash, hn.names_eq, ih hns]
          rfl

theorem not_isAbsolute_intercalate {ns : List String} (h : ∀ n ∈ ns, IsName n) :
    isAbsolute ("/".intercalate ns) = false := by
  cases ns with
  | nil => rfl
  | cons n ns =>
      have hn := h n List.mem_cons_self
      have hFirst : n.toList ≠ [] := fun hNil => hn.ne_empty (String.toList_eq_nil_iff.mp hNil)
      cases ns with
      | nil =>
          rw [String.intercalate_singleton]
          exact hn.not_isAbsolute
      | cons n' ns =>
          have hHead := hn.not_isAbsolute
          rw [isAbsolute] at hHead ⊢
          rwa [String.intercalate_cons_cons, String.append_assoc, String.toList_append,
            List.head?_append_of_ne_nil _ hFirst]

/-! ## Joined paths -/

/-- The path of a directory as it stands in front of the names in it. -/
def opened (p : String) : String := if p = "" || endsWithSlash p then p else p ++ "/"

theorem join_eq (h : isAbsolute q = false) : join p q = opened p ++ q := by
  rw [join, if_neg (by simp [h]), opened]
  split <;> rfl

theorem opened_eq (p : String) : p = "" ∧ opened p = "" ∨
    p ≠ "" ∧ ∃ p', opened p = p' ++ "/" ∧ (p = p' ∨ p = p' ++ "/") := by
  by_cases hEmpty : p = ""
  · exact .inl ⟨hEmpty, by simp [opened, hEmpty]⟩
  · refine .inr ⟨hEmpty, ?_⟩
    by_cases hSlash : endsWithSlash p = true
    · obtain ⟨s, hs⟩ := List.getLast?_eq_some_iff.mp (beq_iff_eq.mp hSlash)
      have hp : p = String.ofList s ++ "/" := String.toList_injective (by simp [hs])
      exact ⟨String.ofList s, by simp [opened, hSlash, ← hp], .inr hp⟩
    · exact ⟨p, by simp [opened, hEmpty, hSlash], .inl rfl⟩

theorem names_join (h : isAbsolute q = false) : names (join p q) = names p ++ names q := by
  rw [join_eq h]
  rcases opened_eq p with ⟨rfl, hOpened⟩ | ⟨-, p', hOpened, rfl | rfl⟩
  · rw [hOpened, String.empty_append]
    rfl
  · rw [hOpened, names_slash]
  · have hNames := names_slash p' ""
    rw [String.append_empty, names_empty, List.append_nil] at hNames
    rw [hOpened, names_slash, hNames]

theorem isAbsolute_append (hp : p ≠ "") : isAbsolute (p ++ q) = isAbsolute p := by
  have hFirst : p.toList ≠ [] := fun hNil => hp (String.toList_eq_nil_iff.mp hNil)
  rw [isAbsolute, isAbsolute, String.toList_append, List.head?_append_of_ne_nil _ hFirst]

theorem isAbsolute_join (h : isAbsolute q = false) : isAbsolute (join p q) = isAbsolute p := by
  rw [join, if_neg (by simp [h])]
  by_cases hEmpty : p = ""
  · rw [if_pos (by simp [hEmpty]), hEmpty, String.empty_append, h]
    rfl
  · split
    · exact isAbsolute_append hEmpty
    · rw [String.append_assoc]
      exact isAbsolute_append hEmpty

theorem endsWithSlash_append (h : q ≠ "") : endsWithSlash (p ++ q) = endsWithSlash q := by
  have hLast : q.toList ≠ [] := fun hNil => h (String.toList_eq_nil_iff.mp hNil)
  rw [endsWithSlash, endsWithSlash, String.toList_append, List.getLast?_append_of_ne_nil _ hLast]

/-- Two names may be joined to a path one after the other or at once. -/
theorem join_join {a b : String} (ha : IsName a) (hb : IsName b) :
    join (join p a) b = join p (a ++ "/" ++ b) := by
  have hBoth : isAbsolute (a ++ "/" ++ b) = false := by
    rw [String.append_assoc, isAbsolute_append ha.ne_empty, ha.not_isAbsolute]
  have hNonempty : opened p ++ a ≠ "" := fun hEq =>
    ha.ne_empty (String.append_eq_empty_iff.mp hEq).2
  have hOpen : endsWithSlash (opened p ++ a) = false := by
    rw [endsWithSlash_append ha.ne_empty, ha.not_endsWithSlash]
  have hOpened : opened (opened p ++ a) = opened p ++ a ++ "/" :=
    if_neg (by simp [hNonempty, hOpen])
  rw [join_eq hb.not_isAbsolute, join_eq ha.not_isAbsolute, join_eq hBoth, hOpened]
  simp only [String.append_assoc]

/-! ## Parents -/

/-- The dots that change nothing are left out. -/
def steps (p : String) : List String := (names p).filter (· != ".")

theorem isName_of_mem_steps (h : n ∈ steps p) : IsName n :=
  isName_of_mem_names (List.mem_filter.mp h).1

theorem components_of_relative (h : isAbsolute p = false) :
    components p = steps p ∨ components p = "." :: steps p ∧ "." ∈ names p := by
  rw [components, if_neg (by simp [h])]
  split
  next hDot => exact .inr ⟨rfl, List.mem_of_head? (beq_iff_eq.mp hDot)⟩
  next => exact .inl rfl

theorem isName_of_mem_components (h : isAbsolute p = false) (hn : n ∈ components p) : IsName n := by
  rcases components_of_relative h with hSteps | ⟨hDot, -⟩
  · exact isName_of_mem_steps (hSteps ▸ hn)
  · rcases List.mem_cons.mp (hDot ▸ hn) with rfl | hn
    · exact ⟨by decide, by decide⟩
    · exact isName_of_mem_steps hn

/-- The path of the parent of an absolute path. -/
theorem names_parent?_absolute (hAbs : isAbsolute p = true) (h : parent? p = some q) :
    isAbsolute q = true ∧ names q = (steps p).dropLast := by
  have hParts : components p = "/" :: steps p := if_pos hAbs
  have hq : q = "/" ++ "/".intercalate (steps p).dropLast := by
    rw [parent?, hParts] at h
    cases hSteps : steps p with
    | nil => simp [hSteps] at h
    | cons n ns =>
        rw [hSteps] at h
        exact (Option.some.inj h).symm
  have hNames := names_slash "" ("/".intercalate (steps p).dropLast)
  rw [String.empty_append, ← hq, names_empty, List.nil_append] at hNames
  refine ⟨by rw [hq, isAbsolute_append (by decide)]; rfl, ?_⟩
  rw [hNames, names_intercalate]
  exact fun n hn => isName_of_mem_steps (List.dropLast_subset _ hn)

/-- The path of the parent of a relative path. -/
theorem names_parent?_relative (hRel : isAbsolute p = false) (h : parent? p = some q) :
    isAbsolute q = false ∧ names q = (components p).dropLast := by
  have hNames : ∀ n ∈ (components p).dropLast, IsName n := fun n hn =>
    isName_of_mem_components hRel (List.dropLast_subset _ hn)
  have hSlash : "/" ∉ components p := fun hMem =>
    (isName_of_mem_components hRel hMem).noSlash (by decide)
  have hq : q = "/".intercalate (components p).dropLast := by
    unfold parent? at h
    split at h
    · cases h
    · cases h
    next rest hParts => exact absurd (hParts ▸ List.mem_cons_self) hSlash
    · exact (Option.some.inj h).symm
  rw [hq]
  exact ⟨not_isAbsolute_intercalate hNames, names_intercalate hNames⟩

/-- The path of the parent lacks the last step. -/
theorem names_parent? (h : parent? p = some q) :
    isAbsolute q = isAbsolute p ∧ names q ⊆ names p ∧ steps q = (steps p).dropLast := by
  have hSteps : (steps p).dropLast ⊆ names p := fun n hn =>
    (List.mem_filter.mp (List.dropLast_subset _ hn)).1
  have hPlain : (steps p).dropLast.filter (· != ".") = (steps p).dropLast :=
    List.filter_eq_self.mpr fun n hn => (List.mem_filter.mp (List.dropLast_subset _ hn)).2
  cases hAbs : isAbsolute p with
  | true =>
      obtain ⟨hq, hNames⟩ := names_parent?_absolute hAbs h
      exact ⟨hq, hNames ▸ hSteps, by rw [steps, hNames, hPlain]⟩
  | false =>
      obtain ⟨hq, hNames⟩ := names_parent?_relative hAbs h
      rcases components_of_relative hAbs with hParts | ⟨hParts, hDot⟩
      · rw [hParts] at hNames
        exact ⟨hq, hNames ▸ hSteps, by rw [steps, hNames, hPlain]⟩
      · rw [hParts] at hNames
        cases hp : steps p with
        | nil => simp [hp] at hNames; simp [hq, hNames, steps]
        | cons n ns =>
            rw [hp, List.dropLast_cons_cons, ← hp] at hNames
            refine ⟨hq, ?_, ?_⟩
            · rw [hNames]
              exact List.cons_subset.mpr ⟨hDot, hSteps⟩
            · rw [steps, hNames, List.filter_cons_of_neg (by simp), hPlain, hp]

end Path

end FaultBench
