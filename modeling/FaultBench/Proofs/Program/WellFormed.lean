import FaultBench.Proofs.Program.Lexis

/-!
# Well-formed texts

A text is lexically well-formed if it has one comment, at its head, literals that end on their
lines, brackets that nest, and `main` as its last function (`WellFormed`). It is if the parts that
it is put together from can be read by themselves (`Parts.wellFormed`).
-/

namespace FaultBench.Lexis

open Text

/-! ## Occurrences -/

/-- The text `pat` stands in `s` behind the first `i` characters. -/
def OccursAt (pat : String) (s : List Char) (i : Nat) : Prop := pat.toList <+: s.drop i

variable {s t u : List Char} {a b c : Char} {i : Nat} {pat : String}

theorem occursAt_pair_iff (h : pat.toList = [a, b]) :
    OccursAt pat s i ↔ s[i]? = some a ∧ s[i + 1]? = some b := by
  have hFirst : s[i]? = (s.drop i)[0]? := by simp
  have hSecond : s[i + 1]? = (s.drop i)[1]? := by simp
  change pat.toList <+: s.drop i ↔ _
  rw [h, hFirst, hSecond]
  generalize s.drop i = s
  rcases s with - | ⟨x, - | ⟨y, s⟩⟩
  · simp
  · simp
  · simp [eq_comm (a := a), eq_comm (a := b)]

theorem getElem?_of_occursAt (h : OccursAt pat s i) {j : Nat} (hj : pat.toList[j]? = some a) :
    s[i + j]? = some a := by
  obtain ⟨rest, hRest⟩ := h
  have hLength : j < pat.toList.length := (List.getElem?_eq_some_iff.mp hj).1
  rw [← List.getElem?_drop, ← hRest, List.getElem?_append_left hLength, hj]

theorem exists_occursAt (h : pat.toList <:+: s) : ∃ i, OccursAt pat s i := by
  obtain ⟨front, rest, rfl⟩ := h
  exact ⟨front.length, rest, by simp⟩

theorem toList_opener : "/*".toList = ['/', '*'] := rfl

theorem toList_closer : "*/".toList = ['*', '/'] := rfl

theorem toList_slashes : "//".toList = ['/', '/'] := rfl

/-- A character that stands in `s ++ c :: t` stands in one of the three parts. -/
theorem getElem?_append_cons (h : (s ++ c :: t)[i]? = some a) :
    a ∈ s ∧ i < s.length ∨ a = c ∧ i = s.length ∨ a ∈ t ∧ s.length < i := by
  rcases Nat.lt_trichotomy i s.length with hLt | rfl | hGt
  · rw [List.getElem?_append_left hLt] at h
    exact .inl ⟨List.mem_of_getElem? h, hLt⟩
  · rw [List.getElem?_append_right le_rfl] at h
    simp only [Nat.sub_self, List.getElem?_cons_zero, Option.some.injEq] at h
    exact .inr (.inl ⟨h.symm, rfl⟩)
  · obtain ⟨j, hj⟩ := Nat.exists_eq_add_of_lt hGt
    subst hj
    rw [List.getElem?_append_right (by omega), show s.length + j + 1 - s.length = j + 1 by omega,
      List.getElem?_cons_succ] at h
    exact .inr (.inr ⟨List.mem_of_getElem? h, hGt⟩)

/-! ## The parts of a well-formed text -/

/-- A text that is well-formed for a reader who knows comments, string literals and brackets. Its
comment is closed at `close`, and its function `main` begins at `main`. -/
structure WellFormed (s : List Char) (close main : Nat) : Prop where
  ascii : ∀ c ∈ s, c.toNat < 128
  lastLine : s.getLast? = some '\n'
  /-- The only comment is opened by the first characters. -/
  opened : ∀ i, OccursAt "/*" s i ↔ i = 0
  closed : ∀ i, OccursAt "*/" s i ↔ i = close
  apart : 2 ≤ close
  noLineComment : ∀ i, ¬ OccursAt "//" s i
  included : ∃ i, OccursAt "#include" s i
  closedFirst : ∀ i, OccursAt "#include" s i → close + 2 ≤ i
  /-- Behind the comment, a quote opens or closes a string literal, and it does so on one line. -/
  noCharLiteral : '\'' ∉ s.drop (close + 2)
  paired : ∀ l ∈ splitOn '\n' (s.drop (close + 2)),
    Place.outside.after l = .outside ∧ l.count '"' % 2 = 0
  nested : Nested (brackets .outside (s.drop (close + 2)))
  /-- One line alone is the head of `main`. -/
  mainOnce : ∀ i, OccursAt "int main(void)" s i ↔ i = main
  mainLine : (s.take main).getLast? = some '\n'
  mainOutside : close + 2 ≤ main ∧ Nested (brackets .outside ((s.take main).drop (close + 2)))
  /-- Nothing follows what is between its braces. -/
  mainLast : ∃ body, s.drop main = "int main(void)\n\x7b\n".toList ++ body ++ "\x7d\n".toList ∧
    Nested (brackets .outside body)

/-- A text that a comment may hold without ending, and without an inclusion or a call. -/
def IsQuiet (s : List Char) : Prop := ∀ c ∈ s, c.toNat < 128 ∧ c ≠ '/' ∧ c ≠ '#' ∧ c ≠ '('

theorem IsQuiet.append (hs : IsQuiet s) (ht : IsQuiet t) : IsQuiet (s ++ t) :=
  List.forall_mem_append.mpr ⟨hs, ht⟩

/-- What stands between the marks of a comment, and the lines in front of `main` and in it. -/
structure Parts (remark : List Char) (front body : List Line) : Prop where
  quiet : IsQuiet remark
  block : Block front
  mainBlock : Block body
  included : "#include".toList <:+: front.flatMap Line.chars

/-- The lines of the function `main` with the given body. -/
def mainLines (body : List Line) : List Line := Function.lines ⟨"int main(void)", body⟩

/-- The lines behind the comment. -/
def code (front body : List Line) : List Char :=
  '\n' :: (front ++ mainLines body).flatMap Line.chars

/-- The text of the parts. -/
def assemble (remark : List Char) (front body : List Line) : List Char :=
  "/*".toList ++ remark ++ "*/".toList ++ code front body

/-- What stands in front of `main`. -/
def lead (remark : List Char) (front : List Line) : List Char :=
  "/*".toList ++ remark ++ "*/".toList ++ '\n' :: front.flatMap Line.chars

section Text

variable (remark : List Char) (front body : List Line)

theorem mainLines_eq :
    mainLines body = [⟨0, "int main(void)"⟩, ⟨0, "\x7b"⟩] ++ body ++ [⟨0, "\x7d"⟩] := rfl

theorem code_eq :
    code front body = '\n' :: (front ++ mainLines body).flatMap Line.chars := rfl

theorem assemble_eq :
    assemble remark front body = "/*".toList ++ remark ++ "*/".toList ++ code front body := rfl

theorem lead_eq : lead remark front =
    "/*".toList ++ remark ++ "*/".toList ++ '\n' :: front.flatMap Line.chars := rfl

theorem assemble_eq_cons : assemble remark front body =
    '/' :: ('*' :: remark ++ ['*'] ++ '/' :: code front body) := by
  simp [assemble_eq]

theorem drop_comment : (assemble remark front body).drop (remark.length + 2 + 2) =
    code front body := by
  refine List.drop_left' ?_
  simp

theorem assemble_eq_lead : assemble remark front body =
    lead remark front ++ ("int main(void)\n\x7b\n".toList ++ body.flatMap Line.chars ++
      "\x7d\n".toList) := by
  simp [assemble_eq, lead_eq, code_eq, mainLines_eq, Line.chars]

end Text

namespace Parts

variable {remark : List Char} {front body : List Line} (h : Parts remark front body)

include h

theorem sound_lines : ∀ l ∈ front ++ mainLines body, Sound l.text.toList := by
  have hMarks : ∀ m ∈ ["int main(void)", "\x7b", "\x7d"], Sound m.toList := by decide
  simp only [List.forall_mem_cons] at hMarks
  obtain ⟨hHead, hOpen, hClose, -⟩ := hMarks
  simp only [mainLines_eq, List.forall_mem_append, List.forall_mem_cons]
  exact ⟨fun l hl => (h.block.clean l hl).toSound,
    ⟨⟨hHead, hOpen, List.forall_mem_nil _⟩, fun l hl => (h.mainBlock.clean l hl).toSound⟩, hClose,
    List.forall_mem_nil _⟩

theorem mem_code {c : Char} (hc : c ∈ code front body) : c = '\n' ∨ isPlain c = true := by
  rcases List.mem_cons.mp hc with rfl | hc
  · exact .inl rfl
  · obtain ⟨l, hl, hcl⟩ := List.mem_flatMap.mp hc
    exact mem_chars (h.sound_lines l hl) hcl

theorem not_mem_code {c : Char} (hFeed : c ≠ '\n') (hPlain : isPlain c = false) :
    c ∉ code front body := fun hc => (h.mem_code hc).elim hFeed fun hAll =>
  Bool.false_ne_true (hPlain.symm.trans hAll)

theorem ascii : ∀ c ∈ assemble remark front body, c.toNat < 128 := by
  have hMarks : (∀ c ∈ "/*".toList, c.toNat < 128) ∧ ∀ c ∈ "*/".toList, c.toNat < 128 := by
    simp [toList_opener, toList_closer]
  simp only [assemble_eq, List.forall_mem_append]
  refine ⟨⟨⟨hMarks.1, fun c hc => (h.quiet c hc).1⟩, hMarks.2⟩, fun c hc => ?_⟩
  rcases h.mem_code hc with rfl | hPlain
  · decide
  · exact lt_of_isPlain hPlain

/-! ### The comment -/

/-- Slashes stand in the marks of the comment only. -/
theorem slash_cases (hi : (assemble remark front body)[i]? = some '/') :
    i = 0 ∨ i = remark.length + 3 := by
  have hCode : '/' ∉ code front body := h.not_mem_code (by decide) rfl
  have hRemark : '/' ∉ '*' :: remark ++ ['*'] := by
    simpa using fun hMem => (h.quiet _ hMem).2.1 rfl
  cases i with
  | zero => exact .inl rfl
  | succ j =>
      rw [assemble_eq_cons, List.getElem?_cons_succ] at hi
      rcases getElem?_append_cons hi with ⟨hMem, -⟩ | ⟨-, rfl⟩ | ⟨hMem, -⟩
      · exact absurd hMem hRemark
      · exact .inr (by simp)
      · exact absurd hMem hCode

theorem opened : OccursAt "/*" (assemble remark front body) i ↔ i = 0 := by
  constructor
  · intro hOccurs
    obtain ⟨hSlash, hStar⟩ := (occursAt_pair_iff toList_opener).mp hOccurs
    rcases h.slash_cases hSlash with rfl | rfl
    · rfl
    · -- The line of the comment ends behind its last mark.
      rw [assemble_eq_cons, List.getElem?_cons_succ] at hStar
      simp [code_eq] at hStar
  · rintro rfl
    exact (occursAt_pair_iff toList_opener).mpr (by simp [assemble_eq])

theorem closed : OccursAt "*/" (assemble remark front body) i ↔ i = remark.length + 2 := by
  constructor
  · intro hOccurs
    obtain ⟨-, hSlash⟩ := (occursAt_pair_iff toList_closer).mp hOccurs
    rcases h.slash_cases hSlash with hZero | hLast
    · cases hZero
    · exact Nat.succ_inj.mp hLast
  · rintro rfl
    rw [assemble_eq_cons, occursAt_pair_iff toList_closer, List.getElem?_cons_succ,
      List.getElem?_cons_succ]
    exact ⟨by simp, by simp⟩

theorem not_occursAt_slashes : ¬ OccursAt "//" (assemble remark front body) i := by
  intro hOccurs
  obtain ⟨hFirst, hSecond⟩ := (occursAt_pair_iff toList_slashes).mp hOccurs
  rcases h.slash_cases hFirst with rfl | rfl <;> rcases h.slash_cases hSecond with hi | hi <;> omega

/-- What is included is included behind the comment. -/
theorem closed_of_included (hi : OccursAt "#include" (assemble remark front body) i) :
    remark.length + 2 + 2 ≤ i := by
  have hMark : (assemble remark front body)[i + 0]? = some '#' := getElem?_of_occursAt hi rfl
  by_contra hLt
  have hLeft : i < ("/*".toList ++ remark ++ "*/".toList).length := by
    simp
    omega
  rw [assemble_eq, Nat.add_zero, List.getElem?_append_left hLeft] at hMark
  have hMem := List.mem_of_getElem? hMark
  simp only [toList_opener, toList_closer, List.mem_append, List.mem_cons, List.not_mem_nil,
    or_false] at hMem
  rcases hMem with (hMem | hMem) | hMem
  · exact absurd hMem (by decide)
  · exact (h.quiet _ hMem).2.2.1 rfl
  · exact absurd hMem (by decide)

theorem exists_included : ∃ i, OccursAt "#include" (assemble remark front body) i := by
  refine exists_occursAt (h.included.trans ?_)
  rw [assemble_eq, code_eq, List.flatMap_append, ← List.cons_append, ← List.append_assoc]
  exact ((List.suffix_cons _ _).isInfix.trans (List.suffix_append _ _).isInfix).trans
    (List.prefix_append _ _).isInfix

/-! ### The function `main` -/

omit h in
theorem getLast?_lead : (lead remark front).getLast? = some '\n' := by
  rw [lead_eq, List.getLast?_append_of_ne_nil _ (List.cons_ne_nil _ _)]
  exact getLast?_flatMap front

theorem isChain_lead : (lead remark front).IsChain NotInMain := by
  have hComment : '(' ∉ "/*".toList ++ remark ++ "*/".toList := by
    simp only [List.mem_append, not_or]
    exact ⟨⟨by decide, fun hMem => (h.quiet _ hMem).2.2.2 rfl⟩, by decide⟩
  have hFeed : ('\n' :: front.flatMap Line.chars).IsChain NotInMain :=
    isChain_append (s := ['\n']) (by simp) (isChain_flatMap h.block.clean) (by simp)
  refine isChain_append (isChain_of_not_mem hComment) hFeed ?_
  rw [List.getLast?_append_of_ne_nil _ (by decide)]
  decide

theorem main_iff : OccursAt "int main(void)" (assemble remark front body) i ↔
    i = (lead remark front).length := by
  constructor
  · intro hOccurs
    have hSplit : assemble remark front body = (lead remark front ++ "int mai".toList) ++
        'n' :: '(' :: ("void)\n\x7b\n".toList ++ body.flatMap Line.chars ++ "\x7d\n".toList) := by
      rw [assemble_eq_lead]
      simp
    have hFirst : (assemble remark front body)[i + 7]? = some 'n' :=
      getElem?_of_occursAt hOccurs rfl
    have hSecond : (assemble remark front body)[i + 8]? = some '(' :=
      getElem?_of_occursAt hOccurs rfl
    rw [hSplit] at hFirst hSecond
    have hIndex := eq_length_of_pair ?_ ?_ hFirst hSecond
    · simpa using hIndex
    · rw [List.append_assoc]
      refine isChain_append h.isChain_lead (by decide) ?_
      rw [getLast?_lead]
      decide
    · rw [List.append_assoc]
      refine isChain_append (s := "(void)\n\x7b\n".toList) (by decide)
        (isChain_append (isChain_flatMap h.mainBlock.clean) (by decide) ?_) (by decide)
      exact getLast?_flatMap_ne body
  · rintro rfl
    change "int main(void)".toList <+: (assemble remark front body).drop _
    rw [assemble_eq_lead, List.drop_left]
    exact ⟨"\n\x7b\n".toList ++ body.flatMap Line.chars ++ "\x7d\n".toList, by simp⟩

theorem paired : ∀ l ∈ splitOn '\n' (code front body),
    Place.outside.after l = .outside ∧ l.count '"' % 2 = 0 := by
  have hSplit : splitOn '\n' (code front body) =
      splitOn '\n' [] ++ splitOn '\n' ((front ++ mainLines body).flatMap Line.chars) :=
    splitOn_append_cons (s := [])
  rw [hSplit]
  exact List.forall_mem_append.mpr ⟨by simp [splitOn, Place.after],
    paired_of_mem_splitOn h.sound_lines⟩

theorem brackets_code : brackets .outside (code front body) =
    (front ++ mainLines body).flatMap lineBrackets :=
  brackets_flatMap h.sound_lines

theorem nested : Nested (brackets .outside (code front body)) := by
  have hOpen : [(⟨0, "int main(void)"⟩ : Line), ⟨0, "\x7b"⟩].flatMap lineBrackets =
      ['(', ')', '\x7b'] := by decide
  have hClose : [(⟨0, "\x7d"⟩ : Line)].flatMap lineBrackets = ['\x7d'] := by decide
  rw [h.brackets_code, mainLines_eq, List.flatMap_append, List.flatMap_append, List.flatMap_append,
    hOpen, hClose]
  have hBody : Nested ('\x7b' :: (body.flatMap lineBrackets ++ '\x7d' :: [])) :=
    .enclosed (by decide) h.mainBlock.nested .nil
  exact h.block.nested.append (.enclosed (s := []) (by decide) .nil hBody)

/-- The text of such parts is well-formed. -/
theorem wellFormed :
    WellFormed (assemble remark front body) (remark.length + 2) (lead remark front).length where
  ascii := h.ascii
  lastLine := by
    rw [assemble_eq_lead, ← List.append_assoc, List.getLast?_append_of_ne_nil _ (by decide)]
    decide
  opened _ := h.opened
  closed _ := h.closed
  apart := Nat.le_add_left 2 _
  noLineComment _ := h.not_occursAt_slashes
  included := h.exists_included
  closedFirst _ := h.closed_of_included
  noCharLiteral := by
    rw [drop_comment]
    exact h.not_mem_code (by decide) rfl
  paired := by
    rw [drop_comment]
    exact h.paired
  nested := by
    rw [drop_comment]
    exact h.nested
  mainOnce _ := h.main_iff
  mainLine := by
    rw [assemble_eq_lead, List.take_left, getLast?_lead]
  mainOutside := by
    have hFront : (lead remark front).drop (remark.length + 2 + 2) =
        '\n' :: front.flatMap Line.chars := List.drop_left' (by simp)
    have hBrackets : brackets .outside ('\n' :: front.flatMap Line.chars) =
        front.flatMap lineBrackets := brackets_flatMap fun l hl => (h.block.clean l hl).toSound
    rw [assemble_eq_lead, List.take_left, hFront, hBrackets]
    exact ⟨by simp [lead_eq], h.block.nested⟩
  mainLast := by
    rw [assemble_eq_lead, List.drop_left]
    refine ⟨body.flatMap Line.chars, rfl, ?_⟩
    rw [brackets_flatMap fun l hl => (h.mainBlock.clean l hl).toSound]
    exact h.mainBlock.nested

end Parts

end FaultBench.Lexis
