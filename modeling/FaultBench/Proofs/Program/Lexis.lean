import FaultBench.Proofs.Exchange.Ids
import FaultBench.Proofs.Text.Split
import FaultBench.Proofs.Program.Layout

/-!
# Lexis of C texts

String literals and brackets, for a reader who knows nothing else. A line may be read by itself if
its literals end on it (`Clean`); the brackets of a text are then those of its lines
(`brackets_flatMap`).
-/

namespace FaultBench.Lexis

open Text

/-! ## String literals -/

/-- Where a reader of code stands. -/
inductive Place
  | outside
  /-- In a string literal. -/
  | inside
  /-- In a string literal, behind a backslash. -/
  | escaped
  deriving DecidableEq

namespace Place

def next : Place → Char → Place
  | .outside, c => if c = '"' then .inside else .outside
  | .inside, c => if c = '"' then .outside else if c = '\\' then .escaped else .inside
  | .escaped, _ => .inside

/-- Where a reader stands behind a text. -/
def after (p : Place) (s : List Char) : Place := s.foldl next p

variable {p : Place} {s t : List Char}

theorem after_append : p.after (s ++ t) = (p.after s).after t := List.foldl_append

/-- No literal begins or ends where there is neither a quote nor a backslash. -/
theorem after_eq_self (hQuote : '"' ∉ s) (hSlash : '\\' ∉ s) (hp : p ≠ .escaped) :
    p.after s = p := by
  induction s with
  | nil => rfl
  | cons c s ih =>
      simp only [List.mem_cons, not_or, ne_comm (b := c)] at hQuote hSlash
      have hNext : p.next c = p := by
        cases p <;> simp_all [next]
      rw [after, List.foldl_cons, hNext]
      exact ih hQuote.2 hSlash.2

theorem after_word (h : IsWord s) (hp : p ≠ .escaped) : p.after s = p :=
  after_eq_self (h.not_mem rfl) (h.not_mem rfl) hp

end Place

/-! ## Brackets -/

/-- The opening brackets, each with the bracket that closes it. -/
def bracketPairs : List (Char × Char) := [('(', ')'), ('[', ']'), ('\x7b', '\x7d')]

def isBracket (c : Char) : Bool := bracketPairs.any fun p => c == p.1 || c == p.2

/-- The brackets of a text that stand outside string literals. -/
def brackets : Place → List Char → List Char
  | _, [] => []
  | p, c :: s => (if p = .outside ∧ isBracket c then [c] else []) ++ brackets (p.next c) s

/-- Brackets of which each is closed by its own kind, in the reverse order of their opening. -/
inductive Nested : List Char → Prop
  | nil : Nested []
  | enclosed {o c : Char} {s t : List Char} :
      (o, c) ∈ bracketPairs → Nested s → Nested t → Nested (o :: (s ++ c :: t))

variable {p : Place} {s t : List Char}

theorem brackets_append : brackets p (s ++ t) = brackets p s ++ brackets (p.after s) t := by
  induction s generalizing p with
  | nil => rfl
  | cons c s ih => simp only [List.cons_append, brackets, ih, List.append_assoc, Place.after,
      List.foldl_cons]

theorem brackets_eq_nil (h : ∀ c ∈ s, isBracket c = false) : brackets p s = [] := by
  induction s generalizing p with
  | nil => rfl
  | cons c s ih =>
      obtain ⟨hc, hs⟩ := List.forall_mem_cons.mp h
      simp [brackets, hc, ih hs]

theorem isBracket_of_isIdChar {c : Char} (h : KindId.isIdChar c = true) : isBracket c = false := by
  have hRound : c ≠ '(' ∧ c ≠ ')' := ⟨ne_of_holds h rfl, ne_of_holds h rfl⟩
  have hSquare : c ≠ '[' ∧ c ≠ ']' := ⟨ne_of_holds h rfl, ne_of_holds h rfl⟩
  have hCurly : c ≠ '\x7b' ∧ c ≠ '\x7d' := ⟨ne_of_holds h rfl, ne_of_holds h rfl⟩
  simp [isBracket, bracketPairs, hRound, hSquare, hCurly]

theorem Nested.append (hs : Nested s) (ht : Nested t) : Nested (s ++ t) := by
  induction hs with
  | nil => exact ht
  | enclosed hPair hInner _ _ ih =>
      rw [List.cons_append, List.append_assoc, List.cons_append]
      exact .enclosed hPair hInner ih

/-- Brackets nest in front of those that are pending, the innermost first. -/
def closes : List Char → List Char → Bool
  | pending, [] => pending.isEmpty
  | pending, b :: s =>
    match bracketPairs.lookup b with
    | some c => closes (c :: pending) s
    | none =>
      match pending with
      | [] => false
      | c :: pending => b == c && closes pending s

theorem mem_bracketPairs {o c : Char} (h : bracketPairs.lookup o = some c) :
    (o, c) ∈ bracketPairs := by
  obtain ⟨before, after, hSplit, -⟩ := List.lookup_eq_some_iff.mp h
  exact hSplit ▸ List.mem_append_right before List.mem_cons_self

/-- What is pending first is closed behind brackets that are nested in themselves. -/
theorem exists_of_closes {c : Char} {pending : List Char} (h : closes (c :: pending) s = true) :
    ∃ a b, s = a ++ c :: b ∧ Nested a ∧ closes pending b = true := by
  induction hn : s.length using Nat.strong_induction_on generalizing s c pending with
  | _ n ih =>
      cases s with
      | nil => simp [closes] at h
      | cons o s =>
          subst hn
          rw [closes] at h
          split at h
          next d hOpen =>
            obtain ⟨inner, rest, rfl, hInner, hRest⟩ := ih _ (by simp) h rfl
            obtain ⟨a, b, rfl, ha, hb⟩ := ih _ (by simp; omega) hRest rfl
            exact ⟨o :: (inner ++ d :: a), b, by simp, .enclosed (mem_bracketPairs hOpen) hInner ha,
              hb⟩
          next =>
            simp only [Bool.and_eq_true, beq_iff_eq] at h
            obtain ⟨rfl, hRest⟩ := h
            exact ⟨[], s, rfl, .nil, hRest⟩

theorem nested_of_closes (h : closes [] s = true) : Nested s := by
  induction hn : s.length using Nat.strong_induction_on generalizing s with
  | _ n ih =>
      cases s with
      | nil => exact .nil
      | cons o s =>
          subst hn
          rw [closes] at h
          split at h
          next c hOpen =>
            obtain ⟨inner, rest, rfl, hInner, hRest⟩ := exists_of_closes h
            exact .enclosed (mem_bracketPairs hOpen) hInner (ih _ (by simp; omega) hRest rfl)
          next => cases h

/-! ## Lines that may be read by themselves -/

/-- The head of `main` holds these two characters side by side, and nothing else does. -/
def NotInMain (a b : Char) : Prop := ¬ (a = 'n' ∧ b = '(')

instance : DecidableRel NotInMain := fun _ _ => inferInstanceAs (Decidable (¬ _))

/-- Where the two characters stand side by side but between two texts in which they do not. -/
theorem eq_length_of_pair {i : Nat} (hs : (s ++ ['n']).IsChain NotInMain)
    (ht : ('(' :: t).IsChain NotInMain) (hFirst : (s ++ 'n' :: '(' :: t)[i]? = some 'n')
    (hSecond : (s ++ 'n' :: '(' :: t)[i + 1]? = some '(') : i = s.length := by
  have hNot {u : List Char} {j : Nat} (hu : u.IsChain NotInMain) (hj : u[j]? = some 'n') :
      u[j + 1]? ≠ some '(' := by
    intro hj'
    obtain ⟨hLt, hEq⟩ := List.getElem?_eq_some_iff.mp hj
    obtain ⟨hLt', hEq'⟩ := List.getElem?_eq_some_iff.mp hj'
    exact List.isChain_iff_getElem.mp hu j hLt' ⟨hEq, hEq'⟩
  rw [List.append_cons] at hFirst hSecond
  rcases Nat.lt_trichotomy i s.length with hLt | hEq | hGt
  · rw [List.getElem?_append_left (by simp; omega)] at hFirst hSecond
    exact absurd hSecond (hNot hs hFirst)
  · exact hEq
  · obtain ⟨j, rfl⟩ := Nat.exists_eq_add_of_lt hGt
    have hLeft : (s ++ ['n']).length ≤ s.length + j + 1 := by
      simp
    rw [List.getElem?_append_right hLeft] at hFirst
    rw [List.getElem?_append_right (Nat.le_succ_of_le hLeft), Nat.succ_sub hLeft] at hSecond
    exact absurd hSecond (hNot ht hFirst)

/-- A character that is neither part of a mark of comments nor ends a line or begins a character
literal. -/
def isPlain (c : Char) : Bool := decide (c.toNat < 128) && c != '\n' && c != '/' && c != '\''

/-- The literals of a line of code end on it. -/
structure Sound (s : List Char) : Prop where
  plain : ∀ c ∈ s, isPlain c = true
  closed : Place.outside.after s = .outside
  paired : s.count '"' % 2 = 0

/-- A line that may be read by itself, and that is not the head of `main`. -/
structure Clean (s : List Char) : Prop extends Sound s where
  chain : s.IsChain NotInMain

instance : Decidable (Sound s) :=
  decidable_of_iff (s.all isPlain = true ∧ Place.outside.after s = .outside ∧
    s.count '"' % 2 = 0) ⟨fun ⟨h, h', h''⟩ => ⟨List.all_eq_true.mp h, h', h''⟩,
      fun ⟨h, h', h''⟩ => ⟨List.all_eq_true.mpr h, h', h''⟩⟩

instance : Decidable (Clean s) :=
  decidable_of_iff (Sound s ∧ s.IsChain NotInMain)
    ⟨fun ⟨h, h'⟩ => ⟨h, h'⟩, fun ⟨h, h'⟩ => ⟨h, h'⟩⟩

theorem lt_of_isPlain {c : Char} (h : isPlain c = true) : c.toNat < 128 := by
  simp only [isPlain, Bool.and_eq_true, decide_eq_true_eq] at h
  exact h.1.1.1

theorem isPlain_of_isIdChar {c : Char} (h : KindId.isIdChar c = true) : isPlain c = true := by
  have hAscii : c.toNat < 128 := by
    rcases KindId.isIdChar_iff.mp h with hLower | hDigit | rfl | rfl
    · exact Nat.lt_of_le_of_lt (UInt32.le_iff_toNat_le.mp hLower.2) (by decide)
    · exact Nat.lt_of_le_of_lt (UInt32.le_iff_toNat_le.mp hDigit.2) (by decide)
    · decide
    · decide
  have hFeed : c ≠ '\n' := ne_of_holds h rfl
  have hSlash : c ≠ '/' := ne_of_holds h rfl
  have hQuote : c ≠ '\'' := ne_of_holds h rfl
  simp [isPlain, hAscii, hFeed, hSlash, hQuote]

theorem isChain_of_not_mem (h : '(' ∉ s) : s.IsChain NotInMain :=
  List.isChain_iff_getElem.mpr fun _ hi hPair => h (hPair.2 ▸ List.getElem_mem hi)

theorem isChain_append (hs : s.IsChain NotInMain) (ht : t.IsChain NotInMain)
    (hLast : s.getLast? ≠ some 'n') : (s ++ t).IsChain NotInMain :=
  List.isChain_append.mpr ⟨hs, ht, fun _ hx _ _ hPair => hLast (hPair.1 ▸ hx)⟩

theorem Clean.append (hs : Clean s) (ht : Clean t) (hLast : s.getLast? ≠ some 'n') :
    Clean (s ++ t) where
  plain := List.forall_mem_append.mpr ⟨hs.plain, ht.plain⟩
  closed := by
    rw [Place.after_append, hs.closed, ht.closed]
  paired := by
    have hCount := hs.paired
    have hCount' := ht.paired
    rw [List.count_append]
    omega
  chain := isChain_append hs.chain ht.chain hLast

section Fill

variable {a w b : List Char}

/-- A word that is put into a line outside of an escape leaves its brackets as they are. -/
theorem brackets_fill (hw : IsWord w) (hPlace : Place.outside.after a ≠ .escaped) :
    brackets .outside (a ++ w ++ b) = brackets .outside (a ++ b) := by
  rw [brackets_append, brackets_append, brackets_append, Place.after_append,
    Place.after_word hw hPlace, brackets_eq_nil fun c hc => isBracket_of_isIdChar (hw c hc),
    List.append_nil]

/-- A line stays readable when a word is put into it that does not make it the head of `main`. -/
theorem Clean.fill (h : Clean (a ++ b)) (hw : IsWord w) (hPlace : Place.outside.after a ≠ .escaped)
    (hSeam : b.head? ≠ some '(' ∨ w.getLast? ≠ some 'n') : Clean (a ++ w ++ b) where
  plain := by
    obtain ⟨ha, hb⟩ := List.forall_mem_append.mp h.plain
    exact List.forall_mem_append.mpr ⟨List.forall_mem_append.mpr
      ⟨ha, fun c hc => isPlain_of_isIdChar (hw c hc)⟩, hb⟩
  closed := by
    rw [Place.after_append, Place.after_append, Place.after_word hw hPlace, ← Place.after_append]
    exact h.closed
  paired := by
    rw [List.count_append, List.count_append, List.count_eq_zero.mpr (hw.not_mem rfl), Nat.add_zero,
      ← List.count_append]
    exact h.paired
  chain := by
    obtain ⟨ha, hb, hJoined⟩ := List.isChain_append.mp h.chain
    have hWord : w.IsChain NotInMain := isChain_of_not_mem (hw.not_mem rfl)
    refine List.isChain_append.mpr ⟨List.isChain_append.mpr ⟨ha, hWord, ?_⟩, hb, ?_⟩
    · rintro x - y hy ⟨-, rfl⟩
      exact hw.not_mem rfl (List.mem_of_mem_head? hy)
    · rintro x hx y hy ⟨rfl, rfl⟩
      rw [List.getLast?_append] at hx
      cases hLast : w.getLast? with
      | none =>
          rw [hLast] at hx
          exact hJoined _ hx _ hy ⟨rfl, rfl⟩
      | some z =>
          rw [hLast] at hx
          cases hx
          exact hSeam.elim (· hy) (· hLast)

end Fill

/-! ## Several lines -/

/-- The brackets of a line. -/
def lineBrackets (l : Line) : List Char := brackets .outside l.text.toList

/-- The lines may be read by themselves, and the brackets on them are nested. -/
structure Block (ls : List Line) : Prop where
  clean : ∀ l ∈ ls, Clean l.text.toList
  nested : Nested (ls.flatMap lineBrackets)

namespace Block

variable {ls ms : List Line}

theorem nil : Block [] := ⟨List.forall_mem_nil _, .nil⟩

theorem append (h : Block ls) (h' : Block ms) : Block (ls ++ ms) where
  clean := List.forall_mem_append.mpr ⟨h.clean, h'.clean⟩
  nested := by
    rw [List.flatMap_append]
    exact h.nested.append h'.nested

theorem flatMap {α : Type} {f : α → List Line} {xs : List α} (h : ∀ x ∈ xs, Block (f x)) :
    Block (xs.flatMap f) := by
  induction xs with
  | nil => exact nil
  | cons x xs ih =>
      obtain ⟨hx, hxs⟩ := List.forall_mem_cons.mp h
      exact hx.append (ih hxs)

end Block

section Lines

variable {l : Line} {ls : List Line}

theorem after_indent (n : Nat) : Place.outside.after (List.replicate n ' ') = .outside :=
  Place.after_eq_self (by simp [List.mem_replicate]) (by simp [List.mem_replicate]) (by simp)

theorem after_chars (h : Sound l.text.toList) : Place.outside.after l.chars = .outside := by
  rw [Line.chars, Place.after_append, Place.after_append, after_indent, h.closed]
  rfl

theorem brackets_chars (h : Sound l.text.toList) :
    brackets .outside l.chars = lineBrackets l := by
  have hIndent : brackets .outside (List.replicate (4 * l.indent) ' ') = [] :=
    brackets_eq_nil fun c hc => List.eq_of_mem_replicate hc ▸ by decide
  rw [Line.chars, brackets_append, brackets_append, hIndent, Place.after_append, after_indent,
    h.closed, List.nil_append]
  exact List.append_nil _

/-- The brackets of a text are those of its lines. -/
theorem brackets_flatMap (h : ∀ l ∈ ls, Sound l.text.toList) :
    brackets .outside (ls.flatMap Line.chars) = ls.flatMap lineBrackets := by
  induction ls with
  | nil => rfl
  | cons l ls ih =>
      obtain ⟨hl, hls⟩ := List.forall_mem_cons.mp h
      rw [List.flatMap_cons, brackets_append, brackets_chars hl, after_chars hl, ih hls,
        List.flatMap_cons]

theorem isChain_chars (h : Clean l.text.toList) : l.chars.IsChain NotInMain := by
  have hIndent : (List.replicate (4 * l.indent) ' ').IsChain NotInMain :=
    isChain_of_not_mem (by simp [List.mem_replicate])
  have hBlank : (List.replicate (4 * l.indent) ' ').getLast? ≠ some 'n' := fun hLast =>
    absurd (List.eq_of_mem_replicate (List.mem_of_getLast? hLast)) (by decide)
  refine List.isChain_append.mpr ⟨isChain_append hIndent h.chain hBlank, by simp, ?_⟩
  rintro x - y hy ⟨-, rfl⟩
  simp at hy

theorem getLast?_chars : l.chars.getLast? = some '\n' := by
  simp [Line.chars]

theorem isChain_flatMap (h : ∀ l ∈ ls, Clean l.text.toList) :
    (ls.flatMap Line.chars).IsChain NotInMain := by
  induction ls with
  | nil => simp
  | cons l ls ih =>
      obtain ⟨hl, hls⟩ := List.forall_mem_cons.mp h
      exact isChain_append (isChain_chars hl) (ih hls) (by simp [getLast?_chars])

/-- A text ends with a line feed. -/
theorem getLast?_flatMap (ls : List Line) :
    ('\n' :: ls.flatMap Line.chars).getLast? = some '\n' := by
  rcases List.eq_nil_or_concat ls with rfl | ⟨ls, l, rfl⟩
  · rfl
  · simp [List.getLast?_cons, Line.chars]

theorem getLast?_flatMap_ne (ls : List Line) : (ls.flatMap Line.chars).getLast? ≠ some 'n' := by
  intro hLast
  have hFeed := getLast?_flatMap ls
  rw [List.getLast?_cons, hLast] at hFeed
  cases hFeed

theorem mem_chars (h : Sound l.text.toList) {c : Char} (hc : c ∈ l.chars) :
    c = '\n' ∨ isPlain c = true := by
  simp only [Line.chars, List.mem_append, List.mem_replicate, List.mem_singleton] at hc
  rcases hc with (⟨-, rfl⟩ | hText) | hFeed
  · exact .inr (by decide)
  · exact .inr (h.plain c hText)
  · exact .inl hFeed

/-- The quotes of a text are paired on each line of it. -/
theorem paired_of_mem_splitOn (h : ∀ l ∈ ls, Sound l.text.toList) :
    ∀ x ∈ splitOn '\n' (ls.flatMap Line.chars),
      Place.outside.after x = .outside ∧ x.count '"' % 2 = 0 := by
  induction ls with
  | nil => simp [splitOn, Place.after]
  | cons l ls ih =>
      obtain ⟨hl, hls⟩ := List.forall_mem_cons.mp h
      have hFeed : '\n' ∉ List.replicate (4 * l.indent) ' ' ++ l.text.toList := by
        simp only [List.mem_append, List.mem_replicate, not_or, not_and]
        exact ⟨fun _ => by decide, fun hMem => absurd (hl.plain _ hMem) (by decide)⟩
      rw [List.flatMap_cons, Line.chars, List.append_assoc, List.singleton_append,
        splitOn_append_cons, splitOn_eq_singleton hFeed, List.singleton_append,
        List.forall_mem_cons]
      refine ⟨⟨?_, ?_⟩, ih hls⟩
      · rw [Place.after_append, after_indent, hl.closed]
      · rw [List.count_append, List.count_replicate]
        simpa using hl.paired

end Lines

end FaultBench.Lexis
