import FaultBench.Diagnostic.Sanitizer
import FaultBench.Proofs.Text.Cuts
import FaultBench.Proofs.Text.Lines

/-!
# The grammar of headlines

A headline is put together from a mark of the process, which may be missing, a word, the name of a
tool and a message (`Spells`). What is read as a headline is exactly what is put together in this
way (`ofTrimmed?_eq_some_iff`), and no line is put together in two ways (`Spells.unique`).
`find?_grammar` says what this makes of a whole text.
-/

namespace FaultBench.Headline

open Text

/-! ## The parts of a headline -/

/-- What may stand in front of a headline: nothing, or the number of a process between pairs of
equals signs. -/
inductive IsMark : List Char → Prop
  | missing : IsMark []
  | process (ds : List Char) (nonempty : ds ≠ []) (digits : ∀ c ∈ ds, isDecimalDigit c = true) :
    IsMark ('=' :: '=' :: (ds ++ ['=', '=']))

/-- The name of a tool: a word that ends in `Sanitizer` and is longer. -/
structure IsTool (tool : List Char) : Prop where
  word : ∀ c ∈ tool, isWordChar c = true
  ending : ∃ front, front ≠ [] ∧ tool = front ++ "Sanitizer".toList

/-- The line is the headline behind the mark. -/
structure Spells (mark : List Char) (h : Headline) (line : List Char) : Prop where
  isMark : IsMark mark
  isTool : IsTool h.tool.toList
  line_eq : line = mark ++ "ERROR: ".toList ++ h.tool.toList ++ ": ".toList ++ h.message.toList

variable {line mark s tool : List Char} {h : Headline}

theorem isToolName_iff :
    isToolName tool = true ↔ ∃ front, front ≠ [] ∧ tool = front ++ "Sanitizer".toList := by
  rw [isToolName, Bool.and_eq_true, List.isSuffixOf_iff_suffix, bne_iff_ne]
  constructor
  · rintro ⟨⟨front, rfl⟩, hLength⟩
    refine ⟨front, ?_, rfl⟩
    rintro rfl
    exact hLength rfl
  · rintro ⟨front, hFront, rfl⟩
    refine ⟨List.suffix_append _ _, ?_⟩
    intro hLength
    rw [List.length_append] at hLength
    have hNone : front.length = 0 := Nat.add_eq_right.mp hLength
    exact hFront (List.length_eq_zero_iff.mp hNone)

/-- What is read behind a mark. -/
theorem exists_mark (hRead : afterProcess line = some s) : ∃ mark, IsMark mark ∧ line = mark ++ s := by
  unfold afterProcess at hRead
  split at hRead
  next rest =>
    split at hRead
    · cases hRead
    next hDigits =>
      split at hRead
      next behind hBehind =>
        cases hRead
        refine ⟨_, .process (rest.takeWhile isDecimalDigit) ?_ ?_, ?_⟩
        · simpa using hDigits
        · exact fun c hc => List.mem_takeWhile_imp hc
        · have hParts := List.takeWhile_append_dropWhile (p := isDecimalDigit) (l := rest)
          rw [hBehind] at hParts
          rw [List.cons_append, List.cons_append, List.append_assoc]
          exact congrArg ('=' :: '=' :: ·) hParts.symm
      next => cases hRead
  next => cases hRead; exact ⟨[], .missing, rfl⟩

/-- A mark is skipped in front of a word. -/
theorem afterProcess_append (hMark : IsMark mark) :
    afterProcess (mark ++ 'E' :: s) = some ('E' :: s) := by
  cases hMark with
  | missing => rfl
  | process ds hSome hDigits =>
      have hRun : '=' :: '=' :: (ds ++ ['=', '=']) ++ 'E' :: s =
          '=' :: '=' :: (ds ++ '=' :: '=' :: 'E' :: s) := by simp
      have hStop : isDecimalDigit '=' = false := rfl
      rw [hRun, afterProcess, takeWhile_append_cons hDigits hStop,
        dropWhile_append_cons hDigits hStop]
      simp [hSome]

theorem exists_spells (hRead : ofTrimmed? line = some h) : ∃ mark, Spells mark h line := by
  obtain ⟨s, hProcess, hRest⟩ := Option.bind_eq_some_iff.mp hRead
  obtain ⟨mark, hMark, rfl⟩ := exists_mark hProcess
  dsimp only at hRest
  split at hRest
  · cases hRest
  next hWord =>
    split at hRest
    · cases hRest
    next hTool =>
      split at hRest
      next message hMessage =>
        cases hRest
        simp only [Bool.not_eq_true', Bool.not_eq_false] at hWord hTool
        obtain ⟨t, rfl⟩ := List.isPrefixOf_iff_prefix.mp hWord
        have hBehind : ("ERROR: ".toList ++ t).drop 7 = t := rfl
        rw [hBehind] at hTool hMessage
        have hParts := List.takeWhile_append_dropWhile (p := isWordChar) (l := t)
        rw [hMessage] at hParts
        rw [hBehind]
        refine ⟨mark, hMark, ⟨?_, ?_⟩, ?_⟩
        · rw [String.toList_ofList]
          exact fun c hc => List.mem_takeWhile_imp hc
        · rw [String.toList_ofList]
          exact isToolName_iff.mp hTool
        · conv_lhs => rw [← hParts]
          simp
      next => cases hRest

theorem ofTrimmed?_of_spells (hSpells : Spells mark h line) : ofTrimmed? line = some h := by
  obtain ⟨hMark, ⟨hWord, hEnding⟩, rfl⟩ := hSpells
  have hLine : mark ++ "ERROR: ".toList ++ h.tool.toList ++ ": ".toList ++ h.message.toList =
      mark ++ 'E' :: ("RROR: ".toList ++ (h.tool.toList ++ ':' :: ' ' :: h.message.toList)) := by
    simp only [List.append_assoc]
    rfl
  have hStop : isWordChar ':' = false := rfl
  have hTool : isToolName h.tool.toList = true := isToolName_iff.mpr hEnding
  have hBehind (t : List Char) : ('E' :: ("RROR: ".toList ++ t)).drop 7 = t := rfl
  have hPrefix (t : List Char) :
      "ERROR: ".toList.isPrefixOf ('E' :: ("RROR: ".toList ++ t)) = true :=
    List.isPrefixOf_iff_prefix.mpr (List.prefix_append _ t)
  rw [hLine, ofTrimmed?, afterProcess_append hMark, Option.bind_eq_bind, Option.bind_some, hPrefix,
    hBehind]
  dsimp only
  rw [takeWhile_append_cons hWord hStop, dropWhile_append_cons hWord hStop, hTool]
  simp only [String.ofList_toList]
  rfl

theorem ofTrimmed?_eq_some_iff : ofTrimmed? line = some h ↔ ∃ mark, Spells mark h line :=
  ⟨exists_spells, fun ⟨_, hSpells⟩ => ofTrimmed?_of_spells hSpells⟩

/-- No line is put together in two ways. -/
theorem Spells.unique {mark' : List Char} {h' : Headline} (hSpells : Spells mark h line)
    (hSpells' : Spells mark' h' line) : mark = mark' ∧ h = h' := by
  have hSame : h = h' := Option.some.inj <|
    (ofTrimmed?_of_spells hSpells).symm.trans (ofTrimmed?_of_spells hSpells')
  subst hSame
  refine ⟨?_, rfl⟩
  have hLine := hSpells.line_eq.symm.trans hSpells'.line_eq
  simpa only [List.append_assoc, List.append_left_inj] using hLine

/-- The message reaches to the end of the line, which is not blank. -/
theorem Spells.getLast?_message (hSpells : Spells mark h (trimEnd line)) :
    ∃ c, h.message.toList.getLast? = some c ∧ isBlank c = false := by
  have hLast {c : Char} : (trimEnd line).getLast? = some c → isBlank c = false :=
    isBlank_of_getLast?_trimEnd
  rw [hSpells.line_eq, List.getLast?_append] at hLast
  cases hMessage : h.message.toList.getLast? with
  | some c =>
      rw [hMessage] at hLast
      exact ⟨c, rfl, hLast rfl⟩
  | none =>
      -- The line would end in the blank in front of the message.
      rw [hMessage, List.getLast?_append] at hLast
      exact absurd (hLast rfl) (by decide)

/-! ## Headlines of texts -/

theorem ofLine?_eq_some_iff : ofLine? line = some h ↔ ∃ mark, Spells mark h (trimEnd line) :=
  ofTrimmed?_eq_some_iff

theorem ofLine?_eq_none_iff : ofLine? line = none ↔ ∀ mark h, ¬ Spells mark h (trimEnd line) := by
  rw [Option.eq_none_iff_forall_ne_some, forall_comm]
  simp only [Ne, ofLine?_eq_some_iff, not_exists]

/-- The headline is that of the first line of the text that has one. -/
def IsFirstOf (h : Headline) (text : List Char) : Prop :=
  ∃ front line back, lines text = front ++ line :: back ∧ ofLine? line = some h ∧
    ∀ l ∈ front, ofLine? l = none

theorem find?_eq_some_iff {text : List Char} {h : Headline} :
    find? text = some h ↔ h.IsFirstOf text :=
  List.findSome?_eq_some_iff

theorem exists_find?_iff {text : List Char} :
    (∃ h, find? text = some h) ↔ ∃ line ∈ lines text, ofLine? line ≠ none := by
  rw [← Option.ne_none_iff_exists', Ne, find?, List.findSome?_eq_none_iff]
  simp only [not_forall, exists_prop, Ne]

theorem find?_append (s t : List Char) : find? (s ++ '\n' :: t) = (find? s).or (find? t) := by
  apply findSome?_lines_append
  · rfl
  · intro line
    have hTrim : trimEnd (line ++ ['\r']) = trimEnd line := by
      rw [trimEnd, List.reverse_append]
      rfl
    rw [ofLine?, hTrim, ofLine?]

/-- **The grammar of headlines.** The headline of a text is the one that is spelled by the first of
its lines, less the blanks at their ends, that spells one, and there is none only if no line spells
one. A line spells a headline in one way only. The message is not empty and does not end in a
blank. -/
theorem find?_grammar (text : List Char) :
    (∀ h, find? text = some h ↔ ∃ front line back, lines text = front ++ line :: back ∧
      (∃ mark, Spells mark h (trimEnd line)) ∧
      ∀ l ∈ front, ∀ mark h', ¬ Spells mark h' (trimEnd l)) ∧
    ((∃ h, find? text = some h) ↔ ∃ line ∈ lines text, ∃ mark h, Spells mark h (trimEnd line)) ∧
    (∀ line mark mark' h h', Spells mark h line → Spells mark' h' line → mark = mark' ∧ h = h') ∧
    ∀ h, find? text = some h →
      ∃ c, h.message.toList.getLast? = some c ∧ isBlank c = false := by
  have hFirst (h : Headline) : find? text = some h ↔
      ∃ front line back, lines text = front ++ line :: back ∧
        (∃ mark, Spells mark h (trimEnd line)) ∧
        ∀ l ∈ front, ∀ mark h', ¬ Spells mark h' (trimEnd l) := by
    rw [find?_eq_some_iff]
    simp only [IsFirstOf, ofLine?_eq_some_iff, ofLine?_eq_none_iff]
  refine ⟨hFirst, ?_, fun _ _ _ _ _ hSpells hSpells' => hSpells.unique hSpells', ?_⟩
  · rw [exists_find?_iff]
    simp only [Ne, ofLine?_eq_none_iff, not_forall, not_not]
  · intro h hFind
    obtain ⟨-, line, -, -, ⟨mark, hSpells⟩, -⟩ := (hFirst h).mp hFind
    exact hSpells.getLast?_message

/-- The name of the tool ends twice as names do, the message begins as a headline does, and the
blanks at the end of the line are a tabulator and a wide space. -/
def nestedLine : List Char := "==42==ERROR: SanitizerSanitizer: ERROR: XSanitizer: \t\u3000\r".toList

theorem find?_grammar_nested :
    let h : Headline := ⟨"SanitizerSanitizer", "ERROR: XSanitizer:"⟩
    let text := "ERROR: Sanitizer: none\n".toList ++ nestedLine
    find? text = some h ∧ Spells "==42==".toList h (trimEnd nestedLine) ∧
      (∃ line ∈ lines text, ∃ mark h, Spells mark h (trimEnd line)) ∧
      (∀ mark' h', Spells mark' h' (trimEnd nestedLine) → "==42==".toList = mark' ∧ h = h') ∧
      ∃ c, h.message.toList.getLast? = some c ∧ isBlank c = false := by
  dsimp only
  have hFind : find? ("ERROR: Sanitizer: none\n".toList ++ nestedLine) =
      some ⟨"SanitizerSanitizer", "ERROR: XSanitizer:"⟩ := by decide
  have hSpells : Spells "==42==".toList ⟨"SanitizerSanitizer", "ERROR: XSanitizer:"⟩
      (trimEnd nestedLine) :=
    ⟨.process "42".toList (by decide) (List.all_eq_true.mp (by decide)),
      ⟨List.all_eq_true.mp (by decide), "Sanitizer".toList, by decide, rfl⟩, by decide⟩
  obtain ⟨-, hExists, hUnique, hMessage⟩ :=
    find?_grammar ("ERROR: Sanitizer: none\n".toList ++ nestedLine)
  exact ⟨hFind, hSpells, hExists.mp ⟨_, hFind⟩,
    fun mark' h' hSpells' => hUnique _ _ mark' _ h' hSpells hSpells', hMessage _ hFind⟩

/-! ## What is shown -/

/-- The headline as it is shown. -/
def title (h : Headline) : List Char := h.tool.toList ++ ": ".toList ++ h.message.toList

/-- What is shown of a headline stands at the end of its line. -/
theorem title_suffix {line : List Char} {h : Headline} (hRead : ofTrimmed? line = some h) :
    h.title <:+ line := by
  obtain ⟨mark, hSpells⟩ := ofTrimmed?_eq_some_iff.mp hRead
  refine ⟨mark ++ "ERROR: ".toList, ?_⟩
  rw [hSpells.line_eq, title]
  simp only [List.append_assoc]

theorem isBlankText_title (h : Headline) : isBlankText h.title = false := by
  have hColon : ':' ∈ h.title := by simp [title]
  rw [isBlankText, List.all_eq_false]
  exact ⟨':', hColon, by decide⟩

end FaultBench.Headline
