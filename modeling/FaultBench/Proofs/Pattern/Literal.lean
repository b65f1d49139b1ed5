import FaultBench.Pattern.Reader
import FaultBench.Proofs.Pattern.Stretches
import FaultBench.Proofs.Text.Search

/-!
# Texts read as patterns

A text without operators is read as a pattern that describes just this text (`read_of_plain`), if it
is not too large. It is found where the text is found (`find?_of_plain`).
-/

namespace FaultBench.Pattern

/-- A character that has a meaning of its own in a written pattern. -/
def isOperator (c : Char) : Bool := "\\.+*?()|[]\x7b\x7d^$".toList.contains c

/-! ## What a literal describes -/

variable {text : List Char}

theorem describes_char_iff {c : Char} {i k : Nat} :
    (char c).Describes text i k ↔ k = i + 1 ∧ text[i]? = some c := by
  simp [char, Describes]

theorem describes_literal_iff {s : List Char} {i k : Nat} :
    (literal s).Describes text i k ↔ k = i + s.length ∧ s <+: text.drop i := by
  induction s generalizing i with
  | nil => simp [literal, Describes, eq_comm]
  | cons c s ih =>
      have hHead : ∀ {rest}, c :: rest <+: text.drop i ↔
          text[i]? = some c ∧ rest <+: text.drop (i + 1) := by
        intro rest
        rw [← List.head?_drop, ← List.tail_drop]
        cases text.drop i with
        | nil => simp
        | cons d more => simp [List.cons_prefix_cons, eq_comm]
      simp only [literal, Describes, describes_char_iff, ih, hHead, List.length_cons]
      constructor
      · rintro ⟨j, ⟨rfl, hc⟩, hk, hRest⟩
        exact ⟨by omega, hc, hRest⟩
      · rintro ⟨hk, hc, hRest⟩
        exact ⟨i + 1, ⟨rfl, hc⟩, by omega, hRest⟩

theorem begins_literal_iff {s : List Char} (hs : s ≠ []) {i : Nat} :
    (literal s).Begins text i ↔ s <+: text.drop i := by
  simp only [Begins, describes_literal_iff]
  constructor
  · rintro ⟨k, -, -, hHere⟩
    exact hHere
  · intro hHere
    have hPos := List.length_pos_iff.mpr hs
    have hLe := hHere.length_le
    rw [List.length_drop] at hLe
    exact ⟨i + s.length, by omega, rfl, hHere⟩

/-! ## Reading -/

/-- The part that a character is read as which is no operator. -/
def charPart (c : Char) : Part := ⟨char c, 0⟩

/-- The items that a text without operators is read as, the last one first. -/
def charItems (s : List Char) : List Item := (s.map fun c => .part (charPart c)).reverse

theorem plain_of_not_operator {c : Char} (hc : isOperator c = false) : plain {} c = char c := by
  unfold plain
  split
  case h_4 => rfl
  all_goals exact absurd hc (by decide)

theorem readGroup_cons {c : Char} (hc : isOperator c = false) (fuel : Nat)
    (names : List (List Char)) (items : List Item) (rest : List Char) :
    readGroup (fuel + 1) {} names [] items (c :: rest) =
      readGroup fuel {} names [] (.part (charPart c) :: items) rest := by
  rw [readGroup, Flags.skip_default]
  dsimp only
  split
  case h_11 hEq =>
    obtain ⟨rfl, rfl⟩ := List.cons.inj hEq
    rw [plain_of_not_operator hc]
    simp only [Bool.not_true, Bool.and_false, Bool.false_eq_true, if_false]
    rfl
  -- In every other case the text is empty or begins with an operator.
  all_goals
    rename_i hEq
    cases hEq
  all_goals exact absurd hc (by decide)

/-- Reading goes through a text without operators to its end. -/
theorem readGroup_plain {s : List Char} (h : ∀ c ∈ s, isOperator c = false) {fuel : Nat}
    (hFuel : s.length < fuel) (names : List (List Char)) (items : List Item) :
    readGroup fuel {} names [] items s =
      .ok (Part.choice [] (charItems s ++ items), names, []) := by
  induction s generalizing fuel items with
  | nil =>
      obtain ⟨fuel, rfl⟩ := Nat.exists_eq_add_one_of_ne_zero (Nat.ne_of_gt hFuel)
      rfl
  | cons c s ih =>
      have hPos : 0 < fuel := Nat.zero_lt_of_lt hFuel
      obtain ⟨fuel, rfl⟩ := Nat.exists_eq_add_one_of_ne_zero (Nat.ne_of_gt hPos)
      obtain ⟨hc, hs⟩ := List.forall_mem_cons.mp h
      rw [readGroup_cons hc, ih hs (Nat.lt_of_succ_lt_succ hFuel)]
      simp [charItems]

theorem filterMap_charItems {f : Item → Option Part} (h : ∀ p, f (.part p) = some p)
    (s : List Char) : (charItems s).filterMap f = (s.map charPart).reverse := by
  simp [charItems, List.filterMap_map, h]

/-- The characters of a text follow one another, and none lies deeper than in their sequence. -/
theorem sequence_charItems (front : List Char) (last : Char) :
    ∃ depth ≤ 1, Part.sequence (charItems (front ++ [last])) =
      ⟨front.foldr (fun c p => .seq (char c) p) (char last), depth⟩ := by
  cases front with
  | nil => exact ⟨0, Nat.zero_le 1, rfl⟩
  | cons c front =>
      have hDepths : ∀ s : List Char,
          ((s.map charPart).reverse.map Part.depth).foldl max 0 = 0 := by
        intro s
        rw [← List.map_reverse, List.map_map]
        induction s.reverse with
        | nil => rfl
        | cons d s ih => exact ih
      refine ⟨1, Nat.le_refl 1, ?_⟩
      unfold Part.sequence
      dsimp only
      rw [filterMap_charItems fun _ => rfl, hDepths, List.map_append, List.reverse_append]
      split
      next hNil => simp at hNil
      next hOne => simp at hOne
      next p rest _ hCons =>
        obtain ⟨rfl, rfl⟩ := List.cons.inj hCons
        simp [List.foldl_reverse, List.foldr_map, charPart]

theorem describes_foldr_iff {front : List Char} {last : Char} {i k : Nat} :
    (front.foldr (fun c p => .seq (char c) p) (char last)).Describes text i k ↔
      (literal (front ++ [last])).Describes text i k := by
  induction front generalizing i with
  | nil => simp [literal, Describes]
  | cons c front ih => simp only [List.foldr_cons, List.cons_append, literal, Describes, ih]

/-- What is read to its end and not too deep is a pattern, unless it is too large. -/
theorem read_of_readGroup {s : List Char} {part : Part} {names : List (List Char)}
    (h : readGroup (s.length + 1) {} [] [] [] s = .ok (part, names, []))
    (hDepth : part.depth ≤ maxDepth) :
    read s = if maxSize < part.pattern.size then .error .tooLarge else .ok part.pattern := by
  unfold read
  rw [h]
  change (if maxDepth < part.depth then _ else _) = _
  rw [if_neg (Nat.not_lt_of_le hDepth)]
  rfl

/-- A text without operators is too large to be read, or is read as a pattern that describes it. -/
theorem read_of_plain {s : List Char} (hs : s ≠ []) (h : ∀ c ∈ s, isOperator c = false)
    (hSize : read s ≠ .error .tooLarge) :
    ∃ p, read s = .ok p ∧ ∀ text i k, p.Describes text i k ↔ (literal s).Describes text i k := by
  obtain ⟨front, last, rfl⟩ := (List.eq_nil_or_concat' s).resolve_left hs
  obtain ⟨depth, hDepth, hSequence⟩ := sequence_charItems front last
  have hGroup := readGroup_plain h (Nat.lt_succ_self _) [] []
  have hChoice : Part.choice [] (charItems (front ++ [last]) ++ []) =
      ⟨front.foldr (fun c p => .seq (char c) p) (char last), depth⟩ := by
    rw [List.append_nil]
    exact hSequence
  rw [hChoice] at hGroup
  have hRead := read_of_readGroup hGroup (Nat.le_trans hDepth (by decide))
  split at hRead
  next => exact absurd hRead hSize
  next => exact ⟨_, hRead, fun _ _ _ => describes_foldr_iff⟩

/-- A text without operators is found as a pattern where it is found as a text. -/
theorem find?_of_plain {s : List Char} (hs : s ≠ []) {p : Pattern}
    (hp : ∀ text i k, p.Describes text i k ↔ (literal s).Describes text i k) (text : List Char) :
    p.find? text = Text.find? s text := by
  have hBegins : ∀ i, p.Begins text i ↔ s <+: text.drop i := by
    intro i
    rw [← begins_literal_iff hs]
    simp only [Begins, hp]
  apply Option.ext
  intro i
  rw [find?_eq_some_iff, Text.find?_eq_some_iff]
  simp only [hBegins]

end FaultBench.Pattern
