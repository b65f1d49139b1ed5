import FaultBench.Pattern.Basic
import Mathlib.Data.List.Basic
import Mathlib.Logic.Relation
import Mathlib.Order.Bounds.Defs

/-!
# Stretches that patterns describe

`Pattern.Describes` says by the shape of a pattern which stretches of a text it describes. From a
set of places `Pattern.before` goes back along such stretches (`goesBack_before`), so the search
finds the first place where one begins (`find?_eq_some_iff`).
-/

namespace FaultBench.Pattern

/-- From `i` to `k` in `n` steps. -/
def Steps (r : Nat → Nat → Prop) : Nat → Nat → Nat → Prop
  | 0, i, k => i = k
  | n + 1, i, k => ∃ j, Steps r n i j ∧ r j k

/-- The character in front of a place. -/
def charBefore (text : List Char) : Nat → Option Char
  | 0 => none
  | i + 1 => text[i]?

/-- The stretch of a text from one place to another is one that the pattern describes. -/
def Describes (text : List Char) : Pattern → Nat → Nat → Prop
  | .empty, i, k => i = k
  | .oneOf mem, i, k => k = i + 1 ∧ ∃ c, text[i]? = some c ∧ mem c = true
  | .anchor a, i, k => i = k ∧ a.holds (charBefore text i) text[i]? = true
  | .seq p q, i, k => ∃ j, Describes text p i j ∧ Describes text q j k
  | .alt p q, i, k => Describes text p i k ∨ Describes text q i k
  | .star p, i, k => Relation.ReflTransGen (Describes text p) i k
  | .times p least more, i, k =>
    ∃ n, least ≤ n ∧ n ≤ least + more ∧ Steps (Describes text p) n i k

/-- A stretch of the text that the pattern describes begins at place `i`. -/
def Begins (text : List Char) (p : Pattern) (i : Nat) : Prop :=
  ∃ k ≤ text.length, Describes text p i k

theorem steps_add {r : Nat → Nat → Prop} {m n i k : Nat} :
    Steps r (m + n) i k ↔ ∃ j, Steps r m i j ∧ Steps r n j k := by
  induction n generalizing k with
  | zero => simp [Steps]
  | succ n ih =>
      rw [← Nat.add_assoc]
      simp only [Steps, ih]
      constructor
      · rintro ⟨l, ⟨j, hFirst, hMore⟩, hLast⟩
        exact ⟨j, hFirst, l, hMore, hLast⟩
      · rintro ⟨j, hFirst, l, hMore, hLast⟩
        exact ⟨l, ⟨j, hFirst, hMore⟩, hLast⟩

/-! ## Sets of places -/

/-- The place belongs to the set. -/
def Has (s : Places) (i : Nat) : Prop := s[i]? = some true

theorem Has.lt_length {s : Places} {i : Nat} (h : Has s i) : i < s.length := by
  obtain ⟨hLt, -⟩ := List.getElem?_eq_some_iff.mp h
  exact hLt

theorem has_everywhere_iff {text : List Char} {i : Nat} :
    Has (everywhere text) i ↔ i ≤ text.length := by
  rw [Has, everywhere, List.getElem?_replicate, ← Nat.lt_succ_iff]
  split
  next hLt => exact iff_of_true rfl hLt
  next hBehind => exact iff_of_false nofun hBehind

theorem length_union {s t : Places} (h : t.length = s.length) : (union s t).length = s.length := by
  rw [union, List.length_zipWith, h, Nat.min_self]

theorem has_union_iff {s t : Places} (h : t.length = s.length) {i : Nat} :
    Has (union s t) i ↔ Has s i ∨ Has t i := by
  unfold Has union
  rw [List.getElem?_zipWith_eq_some]
  constructor
  · rintro ⟨x, y, hx, hy, hOr⟩
    rcases Bool.or_eq_true_iff.mp hOr with rfl | rfl
    · exact .inl hx
    · exact .inr hy
  · rintro (hs | ht)
    · have hLt : i < t.length := h ▸ Has.lt_length hs
      exact ⟨true, t[i], hs, List.getElem?_eq_getElem hLt, Bool.true_or _⟩
    · have hLt : i < s.length := h ▸ Has.lt_length ht
      exact ⟨s[i], true, List.getElem?_eq_getElem hLt, ht, Bool.or_true _⟩

theorem count_union_le {s t : Places} : (union s t).count false ≤ s.count false := by
  induction s generalizing t with
  | nil => simp [union]
  | cons b s ih =>
      cases t with
      | nil => simp [union]
      | cons c t =>
          have hRest := ih (t := t)
          have hCons : union (b :: s) (c :: t) = (b || c) :: union s t := rfl
          cases b <;> cases c <;> simp [hCons] <;> omega

/-- A union that is not its first part leaves out fewer places. -/
theorem count_union_lt {s t : Places} (h : t.length = s.length) (hNe : union s t ≠ s) :
    (union s t).count false < s.count false := by
  induction s generalizing t with
  | nil => simp [union] at hNe
  | cons b s ih =>
      obtain ⟨c, t, rfl⟩ := List.exists_cons_of_length_eq_add_one h
      have hCons : union (b :: s) (c :: t) = (b || c) :: union s t := rfl
      rw [hCons] at hNe ⊢
      by_cases hHead : (b || c) = b
      · have hRest : union s t ≠ s := fun hSame => hNe (by rw [hHead, hSame])
        have hLess := ih (Nat.succ.inj h) hRest
        rw [hHead, List.count_cons, List.count_cons]
        omega
      · have hNew : b = false ∧ c = true := by revert hHead; cases b <;> cases c <;> decide
        have hRest := count_union_le (s := s) (t := t)
        simp [hNew]
        omega

/-! ## Going back -/

/-- On sets among `n` places, `f` gives the places from which `r` leads to the set. -/
structure GoesBack (n : Nat) (r : Nat → Nat → Prop) (f : Places → Places) : Prop where
  length_eq {s : Places} : s.length = n → (f s).length = n
  has_iff {s : Places} {i : Nat} : s.length = n → (Has (f s) i ↔ ∃ k, Has s k ∧ r i k)

namespace GoesBack

variable {n m : Nat} {r q : Nat → Nat → Prop} {f g : Places → Places}

theorem id : GoesBack n (· = ·) fun s => s where
  length_eq h := h
  has_iff _ := by simp

theorem comp (hf : GoesBack n r f) (hg : GoesBack n q g) :
    GoesBack n (fun i k => ∃ j, r i j ∧ q j k) fun s => f (g s) where
  length_eq h := hf.length_eq (hg.length_eq h)
  has_iff {s i} h := by
    rw [hf.has_iff (hg.length_eq h)]
    simp only [hg.has_iff h]
    constructor
    · rintro ⟨j, ⟨k, hk, hRight⟩, hLeft⟩
      exact ⟨k, hk, j, hLeft, hRight⟩
    · rintro ⟨k, hk, j, hLeft, hRight⟩
      exact ⟨j, ⟨k, hk, hRight⟩, hLeft⟩

theorem union (hf : GoesBack n r f) (hg : GoesBack n q g) :
    GoesBack n (fun i k => r i k ∨ q i k) fun s => union (f s) (g s) where
  length_eq h := by
    rw [length_union ((hg.length_eq h).trans (hf.length_eq h).symm), hf.length_eq h]
  has_iff {s i} h := by
    rw [has_union_iff ((hg.length_eq h).trans (hf.length_eq h).symm), hf.has_iff h, hg.has_iff h,
      ← exists_or]
    simp only [and_or_left]

theorem congr {q : Nat → Nat → Prop} (h : GoesBack n r f) (hIff : ∀ i k, r i k ↔ q i k) :
    GoesBack n q f := by
  have hEq : r = q := funext₂ fun i k => propext (hIff i k)
  exact hEq ▸ h

theorem iterate (h : GoesBack n r f) : GoesBack n (Steps r m) (iterate f m) := by
  induction m with
  | zero => exact GoesBack.id
  | succ m ih => exact ih.comp h

/-- `m` steps back from `t`, where each step goes on from the places of `s` as well. -/
theorem upTo_spec (h : GoesBack n r f) {s t : Places} (hs : s.length = n) (ht : t.length = n) :
    let reached := Pattern.iterate (fun t => Pattern.union s (f t)) m t
    reached.length = n ∧ ∀ i, Has reached i ↔
      (∃ k, Has s k ∧ ∃ l < m, Steps r l i k) ∨ ∃ k, Has t k ∧ Steps r m i k := by
  dsimp only
  induction m generalizing t with
  | zero => simp [Pattern.iterate, Steps, ht]
  | succ m ih =>
      have hSame : (f t).length = s.length := (h.length_eq ht).trans hs.symm
      obtain ⟨hLength, hHas⟩ := ih ((length_union hSame).trans hs)
      refine ⟨hLength, fun i => ?_⟩
      rw [Pattern.iterate, hHas]
      simp only [has_union_iff hSame, h.has_iff ht]
      constructor
      · rintro (⟨k, hk, l, hl, hSteps⟩ | ⟨j, hj | ⟨k, hk, hLast⟩, hSteps⟩)
        · exact .inl ⟨k, hk, l, by omega, hSteps⟩
        · exact .inl ⟨j, hj, m, by omega, hSteps⟩
        · exact .inr ⟨k, hk, j, hSteps, hLast⟩
      · rintro (⟨k, hk, l, hl, hSteps⟩ | ⟨k, hk, j, hSteps, hLast⟩)
        · by_cases hMost : l = m
          · subst hMost
            exact .inr ⟨k, .inl hk, hSteps⟩
          · exact .inl ⟨k, hk, l, by omega, hSteps⟩
        · exact .inr ⟨j, .inr ⟨k, hk, hLast⟩, hSteps⟩

/-- At most `m` steps back, where each step keeps the places of the set it began with. -/
theorem upTo (h : GoesBack n r f) :
    GoesBack n (fun i k => ∃ l ≤ m, Steps r l i k)
      fun s => Pattern.iterate (fun t => Pattern.union s (f t)) m s := by
  constructor
  · exact fun hs => (h.upTo_spec hs hs).1
  · intro s i hs
    rw [(h.upTo_spec hs hs).2]
    constructor
    · rintro (⟨k, hk, l, hl, hSteps⟩ | ⟨k, hk, hSteps⟩)
      · exact ⟨k, hk, l, by omega, hSteps⟩
      · exact ⟨k, hk, m, Nat.le_refl m, hSteps⟩
    · rintro ⟨k, hk, l, hl, hSteps⟩
      rcases Nat.lt_or_eq_of_le hl with hLess | rfl
      · exact .inl ⟨k, hk, l, hLess, hSteps⟩
      · exact .inr ⟨k, hk, hSteps⟩

/-- With fuel for each place that is left out, the closure is closed, and steps lead from each of
its places to the set that it began with. -/
theorem closure_spec (h : GoesBack n r f) {fuel : Nat} {s : Places} (hs : s.length = n)
    (hFuel : s.count false ≤ fuel) :
    let t := Pattern.closure f fuel s
    t.length = n ∧ (∀ i, Has s i → Has t i) ∧ Pattern.union t (f t) = t ∧
      ∀ i, Has t i → ∃ k, Has s k ∧ Relation.ReflTransGen r i k := by
  induction fuel generalizing s with
  | zero =>
      refine ⟨hs, fun i hi => hi, ?_, fun i hi => ⟨i, hi, .refl⟩⟩
      by_contra hNe
      have hLess := count_union_lt ((h.length_eq hs).trans hs.symm) hNe
      omega
  | succ fuel ih =>
      have hSame : (f s).length = s.length := (h.length_eq hs).trans hs.symm
      rw [Pattern.closure]
      split
      next hDone => exact ⟨hs, fun i hi => hi, eq_of_beq hDone, fun i hi => ⟨i, hi, .refl⟩⟩
      next hMore =>
          have hLess := count_union_lt hSame (fun hEq => hMore (beq_iff_eq.mpr hEq))
          obtain ⟨hLength, hSub, hFixed, hLeads⟩ := ih ((length_union hSame).trans hs) (by omega)
          refine ⟨hLength, fun i hi => hSub i ((has_union_iff hSame).mpr (.inl hi)), hFixed, ?_⟩
          intro i hi
          obtain ⟨j, hj, hPath⟩ := hLeads i hi
          rcases (has_union_iff hSame).mp hj with hOld | hNew
          · exact ⟨j, hOld, hPath⟩
          · obtain ⟨k, hk, hStep⟩ := (h.has_iff hs).mp hNew
            exact ⟨k, hk, hPath.tail hStep⟩

theorem closure (h : GoesBack n r f) :
    GoesBack n (Relation.ReflTransGen r) (Pattern.closure f n) := by
  constructor
  · exact fun hs => (h.closure_spec hs (hs ▸ List.count_le_length)).1
  · intro s i hs
    obtain ⟨hLength, hSub, hFixed, hLeads⟩ := h.closure_spec hs (hs ▸ List.count_le_length)
    refine ⟨hLeads i, ?_⟩
    rintro ⟨k, hk, hPath⟩
    induction hPath using Relation.ReflTransGen.head_induction_on with
    | refl => exact hSub k hk
    | head hStep _ ih =>
        rw [← hFixed, has_union_iff ((h.length_eq hLength).trans hLength.symm)]
        exact .inr ((h.has_iff hLength).mpr ⟨_, ih, hStep⟩)

end GoesBack

/-! ## The places in front of stretches -/

variable {text : List Char}

theorem goesBack_oneOf (mem : Char → Bool) :
    GoesBack (text.length + 1) (Describes text (.oneOf mem)) (before text (.oneOf mem)) := by
  constructor
  · intro s hs
    simp [before, hs]
  · intro s i hs
    have hFront : (text.zipWith (fun c b => mem c && b) s.tail).length = text.length := by simp [hs]
    simp only [Has, before, Describes, List.getElem?_append, hFront]
    split
    next hLt =>
      rw [List.getElem?_zipWith_eq_some, List.getElem?_tail]
      constructor
      · rintro ⟨c, b, hc, hb, hBoth⟩
        obtain ⟨hMem, rfl⟩ := Bool.and_eq_true_iff.mp hBoth
        exact ⟨i + 1, hb, rfl, c, hc, hMem⟩
      · rintro ⟨k, hk, rfl, c, hc, hMem⟩
        exact ⟨c, true, hc, hk, by rw [hMem, Bool.true_and]⟩
    next hLe =>
      constructor
      · intro hLast
        have hOnly := List.mem_of_getElem? hLast
        simp at hOnly
      · rintro ⟨k, -, rfl, c, hc, -⟩
        rw [List.getElem?_eq_none (by omega)] at hc
        cases hc

theorem getElem?_surroundings {i : Nat} (h : i ≤ text.length) :
    (surroundings text)[i]? = some (charBefore text i, text[i]?) := by
  rw [surroundings, List.getElem?_zip_eq_some]
  constructor
  · cases i with
    | zero => rfl
    | succ i => simp [charBefore, List.getElem?_eq_getElem h]
  · rcases Nat.lt_or_eq_of_le h with hLt | rfl
    · simp [List.getElem?_append_left, hLt]
    · simp

theorem goesBack_anchor (a : Anchor) :
    GoesBack (text.length + 1) (Describes text (.anchor a)) (before text (.anchor a)) := by
  constructor
  · intro s hs
    simp [before, surroundings, hs]
  · intro s i hs
    simp only [Has, before, Describes, List.getElem?_zipWith_eq_some]
    constructor
    · rintro ⟨x, b, hx, hb, hBoth⟩
      obtain ⟨hLt, -⟩ := List.getElem?_eq_some_iff.mp hb
      rw [getElem?_surroundings (by omega), Option.some_inj] at hx
      subst hx
      obtain ⟨hHolds, rfl⟩ := Bool.and_eq_true_iff.mp hBoth
      exact ⟨i, hb, rfl, hHolds⟩
    · rintro ⟨k, hk, rfl, hHolds⟩
      have hLt := Has.lt_length hk
      exact ⟨_, true, getElem?_surroundings (by omega), hk, by rw [hHolds, Bool.true_and]⟩

/-- A place in front of a run is in the set itself, or one step in front of such a place. -/
theorem has_beforeRun_iff {mem : Char → Bool} {s : Places} (hs : s.length = text.length + 1)
    {i : Nat} : Has (beforeRun mem text s) i ↔
      Has s i ∨ (∃ c, text[i]? = some c ∧ mem c = true) ∧ Has (beforeRun mem text s) (i + 1) := by
  induction text generalizing s i with
  | nil => simp [beforeRun]
  | cons c text ih =>
      obtain ⟨b, s, rfl⟩ := List.exists_cons_of_length_eq_add_one hs
      cases i with
      | zero =>
          cases hRest : beforeRun mem text s with
          | nil => simp [Has, beforeRun, hRest]
          | cons d rest => simp [Has, beforeRun, hRest]
      | succ i => exact ih (Nat.succ.inj hs)

theorem length_beforeRun (mem : Char → Bool) {s : Places} (hs : s.length = text.length + 1) :
    (beforeRun mem text s).length = text.length + 1 := by
  induction text generalizing s with
  | nil => exact hs
  | cons c text ih =>
      obtain ⟨b, s, rfl⟩ := List.exists_cons_of_length_eq_add_one hs
      exact congrArg (· + 1) (ih (Nat.succ.inj hs))

theorem goesBack_run (mem : Char → Bool) :
    GoesBack (text.length + 1) (Relation.ReflTransGen (Describes text (.oneOf mem)))
      (beforeRun mem text) := by
  constructor
  · exact length_beforeRun mem
  · intro s i hs
    constructor
    · -- A run that goes on ends with the text at the latest.
      intro hi
      have hLt : i < text.length + 1 := length_beforeRun mem hs ▸ hi.lt_length
      induction hLeft : text.length + 1 - i generalizing i with
      | zero => omega
      | succ left ih =>
          rcases (has_beforeRun_iff hs).mp hi with hHere | ⟨hMem, hNext⟩
          · exact ⟨i, hHere, .refl⟩
          · have hNextLt : i + 1 < text.length + 1 :=
              length_beforeRun mem hs ▸ hNext.lt_length
            obtain ⟨k, hk, hPath⟩ := ih hNext hNextLt (by omega)
            exact ⟨k, hk, .head ⟨rfl, hMem⟩ hPath⟩
    · rintro ⟨k, hk, hPath⟩
      induction hPath using Relation.ReflTransGen.head_induction_on with
      | refl => exact (has_beforeRun_iff hs).mpr (.inl hk)
      | head hStep _ ih =>
          obtain ⟨rfl, hMem⟩ := hStep
          exact (has_beforeRun_iff hs).mpr (.inr ⟨hMem, ih⟩)

/-- **What a pattern describes.** From a set of places the search goes back along the stretches
that the pattern describes. -/
theorem goesBack_before (p : Pattern) :
    GoesBack (text.length + 1) (Describes text p) (before text p) := by
  induction p with
  | empty => exact GoesBack.id
  | oneOf mem => exact goesBack_oneOf mem
  | anchor a => exact goesBack_anchor a
  | seq p q ihp ihq => exact ihp.comp ihq
  | alt p q ihp ihq => exact ihp.union ihq
  | star p ih =>
      cases p with
      | oneOf mem => exact goesBack_run mem
      | _ => exact ih.closure
  | times p least more ih =>
      apply (ih.iterate.comp (ih.upTo (m := more))).congr
      intro i k
      constructor
      · rintro ⟨j, hLeast, l, hl, hMore⟩
        exact ⟨least + l, by omega, by omega, steps_add.mpr ⟨j, hLeast, hMore⟩⟩
      · rintro ⟨n, hLeast, hMost, hSteps⟩
        obtain ⟨l, rfl⟩ := Nat.exists_eq_add_of_le hLeast
        obtain ⟨j, hFirst, hMore⟩ := steps_add.mp hSteps
        exact ⟨j, hFirst, l, by omega, hMore⟩

theorem has_before_everywhere_iff {p : Pattern} {i : Nat} :
    Has (before text p (everywhere text)) i ↔ p.Begins text i := by
  have hLength : (everywhere text).length = text.length + 1 := List.length_replicate
  rw [(goesBack_before p).has_iff hLength]
  simp only [has_everywhere_iff, Begins]

theorem Begins.le_length {p : Pattern} {i : Nat} (h : p.Begins text i) : i ≤ text.length := by
  have hLt := (has_before_everywhere_iff.mpr h).lt_length
  have hLength : (everywhere text).length = text.length + 1 := List.length_replicate
  rw [(goesBack_before p).length_eq hLength] at hLt
  omega

/-- The search finds the first place where a stretch begins that the pattern describes. -/
theorem find?_eq_some_iff {p : Pattern} {i : Nat} :
    p.find? text = some i ↔ IsLeast {i | p.Begins text i} i := by
  have hGet : ∀ j (h : j < (before text p (everywhere text)).length),
      (before text p (everywhere text))[j] = true ↔ p.Begins text j := by
    intro j h
    rw [← has_before_everywhere_iff, Has, List.getElem?_eq_getElem h, Option.some_inj]
  rw [find?, List.findIdx?_eq_some_iff_getElem]
  constructor
  · rintro ⟨hLt, hHere, hBefore⟩
    refine ⟨(hGet i hLt).mp hHere, fun j hj => ?_⟩
    by_contra hLess
    exact hBefore j (by omega) ((hGet j (by omega)).mpr hj)
  · rintro ⟨hHere, hLeast⟩
    have hLt := Has.lt_length (has_before_everywhere_iff.mpr hHere)
    refine ⟨hLt, (hGet i hLt).mpr hHere, fun j hj hThere => ?_⟩
    have hLe : i ≤ j := hLeast ((hGet j (by omega)).mp hThere)
    omega

end FaultBench.Pattern
