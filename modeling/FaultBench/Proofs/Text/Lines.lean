import FaultBench.Proofs.Text.Blank
import FaultBench.Text.Lines
import FaultBench.Text.Search

/-!
# Lines of texts

The line of a text at a place lies between line feeds or the ends of the text (`isLineAt_lineAt`).
The lines that a text is cut into hold no line feed and, but for blanks at line ends, nothing is
lost of them: what is looked for on each line is looked for in one text after the other where a line
feed stands between them (`findSome?_lines_append`). Behind an ended line a text can be cut, and its
lines are those of its parts (`lines_append`).
-/

namespace FaultBench.Text

/-! ## The line at a place -/

/-- `line` lies in `text` between line feeds or the ends of the text, and place `i` is in it or
right behind it. -/
def IsLineAt (text : List Char) (i : Nat) (line : List Char) : Prop :=
  ∃ front back, text = front ++ line ++ back ∧
    (front = [] ∨ front.getLast? = some '\n') ∧ (back = [] ∨ back.head? = some '\n') ∧
    '\n' ∉ line ∧ front.length ≤ i ∧ i ≤ front.length + line.length

theorem IsLineAt.oneLine {text line : List Char} {i : Nat} (h : IsLineAt text i line) :
    '\n' ∉ line := by
  obtain ⟨-, -, -, -, -, hLine, -⟩ := h
  exact hLine

theorem not_mem_takeWhile_ne (s : List Char) : '\n' ∉ s.takeWhile (· != '\n') := by
  intro hMem
  have hNe := List.mem_takeWhile_imp hMem
  simp at hNe

theorem dropWhile_ne_cases (s : List Char) :
    s.dropWhile (· != '\n') = [] ∨ (s.dropWhile (· != '\n')).head? = some '\n' := by
  have hNot := List.head?_dropWhile_not (· != '\n') s
  cases hRest : s.dropWhile (· != '\n') with
  | nil => exact .inl rfl
  | cons c rest =>
      rw [hRest] at hNot
      have hFeed : c = '\n' := by simpa using hNot
      exact .inr (by rw [hFeed]; rfl)

theorem isLineAt_lineAt {s : List Char} {i : Nat} (h : i ≤ s.length) :
    IsLineAt s i (lineAt s i) := by
  have hLeft := List.takeWhile_append_dropWhile (p := (· != '\n')) (l := (s.take i).reverse)
  have hRight := List.takeWhile_append_dropWhile (p := (· != '\n')) (l := s.drop i)
  have hTake : (s.take i).reverse.length = i := by simp [h]
  refine ⟨((s.take i).reverse.dropWhile (· != '\n')).reverse, (s.drop i).dropWhile (· != '\n'),
    ?_, ?_, dropWhile_ne_cases _, ?_, ?_, ?_⟩
  · calc s = (s.take i).reverse.reverse ++ s.drop i := by
          rw [List.reverse_reverse, List.take_append_drop]
      _ = _ := by
          rw [← hLeft, ← hRight, List.reverse_append]
          simp only [hLeft, hRight, lineAt, List.append_assoc]
  · rw [List.reverse_eq_nil_iff, List.getLast?_reverse]
    exact dropWhile_ne_cases _
  · simp only [lineAt, List.mem_append, List.mem_reverse, not_or]
    exact ⟨not_mem_takeWhile_ne _, not_mem_takeWhile_ne _⟩
  · have hLe := (List.dropWhile_suffix (l := (s.take i).reverse) (· != '\n')).length_le
    rwa [hTake, ← List.length_reverse] at hLe
  · have hLengths := congrArg List.length hLeft
    rw [List.length_append, hTake] at hLengths
    simp only [lineAt, List.length_append, List.length_reverse]
    omega

/-- What occurs at a place and holds no line feed lies on the line at that place. -/
theorem infix_of_isLineAt {s line pat : List Char} {i : Nat} (h : IsLineAt s i line)
    (hPat : '\n' ∉ pat) (hOccurs : pat <+: s.drop i) : pat <:+: line := by
  obtain ⟨front, back, rfl, -, hBack, -, hFront, hPlace⟩ := h
  have hDrop : (front ++ line ++ back).drop i = line.drop (i - front.length) ++ back := by
    rw [List.append_assoc, List.drop_append, List.drop_append,
      List.drop_eq_nil_of_le hFront, List.nil_append]
    have hNone : i - front.length - line.length = 0 := by omega
    rw [hNone, List.drop_zero]
  rw [hDrop] at hOccurs
  have hRest : pat <+: line.drop (i - front.length) := by
    rcases List.prefix_or_prefix_of_prefix hOccurs (List.prefix_append _ back) with hIn | hOver
    · exact hIn
    · -- What reaches further would hold the line feed behind the line.
      obtain ⟨more, rfl⟩ := hOver
      rw [List.prefix_append_right_inj] at hOccurs
      obtain ⟨rest, rfl⟩ := hOccurs
      cases more with
      | nil => exact List.append_nil _ ▸ List.prefix_rfl
      | cons c more =>
          rcases hBack with hNil | hFeed
          · cases hNil
          · cases hFeed
            exact absurd (List.mem_append_right _ List.mem_cons_self) hPat
  exact hRest.isInfix.trans (List.drop_suffix _ _).isInfix

/-! ## All lines -/

/-- The line whose characters are `line.reverse`, less the carriage return at its end. -/
theorem closeLine_cases (line : List Char) :
    closeLine line.reverse = line ∨ line = closeLine line.reverse ++ ['\r'] := by
  unfold closeLine
  split
  next rest hRest => exact .inr (by rw [← List.reverse_cons, ← hRest, List.reverse_reverse])
  next => exact .inl (List.reverse_reverse line)

theorem linesFrom_append {line s : List Char} (h : '\n' ∉ s) (rest : List Char) :
    linesFrom line (s ++ rest) = linesFrom (s.reverse ++ line) rest := by
  induction s generalizing line with
  | nil => rfl
  | cons c s ih =>
      obtain ⟨hc, hs⟩ := List.ne_and_not_mem_of_not_mem_cons h
      rw [List.cons_append, linesFrom.eq_3 _ _ _ fun hFeed => hc hFeed.symm, ih hs,
        List.reverse_cons, List.append_assoc, List.singleton_append]

theorem lines_of_not_mem {line : List Char} (h : '\n' ∉ line) :
    lines line = if line.isEmpty then [] else [line] := by
  have hLines : linesFrom [] (line ++ []) = linesFrom (line.reverse ++ []) [] :=
    linesFrom_append h []
  rw [List.append_nil, List.append_nil] at hLines
  rw [lines, hLines, linesFrom, List.isEmpty_reverse, List.reverse_reverse]

theorem lines_append_cons {line : List Char} (h : '\n' ∉ line) (rest : List Char) :
    lines (line ++ '\n' :: rest) = closeLine line.reverse :: lines rest := by
  rw [lines, linesFrom_append h, List.append_nil, linesFrom_lineFeed]

/-- A text is its last line, or has a line in front of another text. -/
@[elab_as_elim]
theorem lines_induction {P : List Char → Prop} (last : ∀ line, '\n' ∉ line → P line)
    (cons : ∀ line rest, '\n' ∉ line → P rest → P (line ++ '\n' :: rest)) (s : List Char) :
    P s := by
  induction hLength : s.length using Nat.strongRecOn generalizing s with
  | ind n ih =>
      by_cases hFeed : '\n' ∈ s
      · obtain ⟨line, rest, rfl, hLine⟩ := List.eq_append_cons_of_mem hFeed
        have hShorter : rest.length < n := by
          rw [← hLength, List.length_append, List.length_cons]
          omega
        exact cons line rest hLine (ih _ hShorter rest rfl)
      · exact last s hFeed

theorem not_mem_of_mem_lines {s l : List Char} (hl : l ∈ lines s) : '\n' ∉ l := by
  induction s using lines_induction with
  | last line hLine =>
      rw [lines_of_not_mem hLine] at hl
      split at hl
      · cases hl
      · rwa [List.mem_singleton.mp hl]
  | cons line rest hLine ih =>
      rw [lines_append_cons hLine] at hl
      rcases List.mem_cons.mp hl with rfl | hRest
      · rcases closeLine_cases line with hSame | hReturn
        · rwa [hSame]
        · rw [hReturn] at hLine
          exact fun hMem => hLine (List.mem_append_left _ hMem)
      · exact ih hRest

/-- A text is blank if its lines are. -/
theorem all_isBlankText_lines (s : List Char) : (lines s).all isBlankText = isBlankText s := by
  induction s using lines_induction with
  | last line hLine =>
      rw [lines_of_not_mem hLine]
      split
      next hEmpty => rw [List.isEmpty_iff.mp hEmpty]; rfl
      next => rw [List.all_cons, List.all_nil, Bool.and_true]
  | cons line rest hLine ih =>
      have hClose : isBlankText (closeLine line.reverse) = isBlankText line := by
        rcases closeLine_cases line with hSame | hReturn
        · rw [hSame]
        · conv_rhs => rw [hReturn]
          rw [isBlankText, isBlankText, List.all_append]
          exact (Bool.and_true _).symm
      rw [lines_append_cons hLine, List.all_cons, ih, hClose]
      simp only [isBlankText, List.all_append, List.all_cons]
      rfl

/-- Where a line feed stands between two texts, what is looked for on each line is looked for on
the lines of the one and then on those of the other. It must not lie on an empty line and must not
depend on a carriage return. -/
theorem findSome?_lines_append {α : Type} {f : List Char → Option α} (hNil : f [] = none)
    (hReturn : ∀ line, f (line ++ ['\r']) = f line) (s t : List Char) :
    (lines (s ++ '\n' :: t)).findSome? f =
      ((lines s).findSome? f).or ((lines t).findSome? f) := by
  have hClose : ∀ line, f (closeLine line.reverse) = f line := by
    intro line
    rcases closeLine_cases line with hSame | hEnd
    · rw [hSame]
    · conv_rhs => rw [hEnd, hReturn]
  induction s using lines_induction with
  | last line hLine =>
      rw [lines_append_cons hLine, lines_of_not_mem hLine, List.findSome?_cons, hClose]
      split
      next hFound =>
        split
        next hEmpty => rw [List.isEmpty_iff.mp hEmpty, hNil] at hFound; cases hFound
        next => rw [List.findSome?_cons, hFound, Option.some_or]
      next hNone =>
        split
        next => rfl
        next => rw [List.findSome?_cons, hNone, List.findSome?_nil, Option.none_or]
  | cons line rest hLine ih =>
      rw [List.append_assoc, List.cons_append, lines_append_cons hLine, lines_append_cons hLine,
        List.findSome?_cons, List.findSome?_cons, ih]
      cases f (closeLine line.reverse) with
      | none => rfl
      | some b => rw [Option.some_or]

/-! ## Texts of ended lines -/

/-- A line feed is behind each line of the text. -/
def Ended (s : List Char) : Prop := s = [] ∨ s.getLast? = some '\n'

theorem ended_append_lineFeed (s : List Char) : Ended (s ++ ['\n']) :=
  .inr List.getLast?_concat

theorem Ended.of_append_cons {line rest : List Char} (h : Ended (line ++ '\n' :: rest)) :
    Ended rest := by
  cases rest with
  | nil => exact .inl rfl
  | cons c rest =>
      refine .inr ?_
      have hLast := h.resolve_left (by simp)
      rwa [List.getLast?_append_of_ne_nil _ (by simp), List.getLast?_cons_cons] at hLast

/-- What has no line feed is ended only if there is nothing. -/
theorem Ended.eq_nil {line : List Char} (h : Ended line) (hLine : '\n' ∉ line) : line = [] :=
  h.resolve_right fun hLast => hLine (List.mem_of_getLast? hLast)

/-- The lines of two texts, the first of which is ended, are the lines of both. -/
theorem lines_append {s : List Char} (h : Ended s) (t : List Char) :
    lines (s ++ t) = lines s ++ lines t := by
  induction s using lines_induction with
  | last line hLine =>
      rw [h.eq_nil hLine]
      rfl
  | cons line rest hLine ih =>
      rw [List.append_assoc, List.cons_append, lines_append_cons hLine, lines_append_cons hLine,
        ih h.of_append_cons]
      rfl

/-- A text is made of ended lines and of what is behind the last of them. -/
theorem exists_ended_append (s : List Char) :
    ∃ front last, s = front ++ last ∧ Ended front ∧ '\n' ∉ last := by
  induction s using lines_induction with
  | last line hLine => exact ⟨[], line, rfl, .inl rfl, hLine⟩
  | cons line rest hLine ih =>
      obtain ⟨front, last, rfl, hFront, hLast⟩ := ih
      refine ⟨line ++ '\n' :: front, last, by simp, .inr ?_, hLast⟩
      rcases hFront with rfl | hEnd
      · exact List.getLast?_concat
      · rw [List.getLast?_append_of_ne_nil _ (by simp), List.getLast?_cons, hEnd]
        rfl

theorem lines_lineFeed {line : List Char} (h : '\n' ∉ line) :
    lines (line ++ ['\n']) = [closeLine line.reverse] := by
  rw [lines_append_cons h]
  rfl

/-- A carriage return in front of the line feed belongs to the end of the line. -/
theorem lines_returnLineFeed {line : List Char} (h : '\n' ∉ line) :
    lines (line ++ ['\r', '\n']) = [line] := by
  have hReturn : '\n' ∉ line ++ ['\r'] := by simpa using h
  have hClose : closeLine (line ++ ['\r']).reverse = line := by
    rw [List.reverse_append]
    exact List.reverse_reverse line
  have hLines := lines_lineFeed hReturn
  rwa [hClose, List.append_assoc] at hLines

end FaultBench.Text
