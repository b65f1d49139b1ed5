import FaultBench.Diagnostic.Compiler
import FaultBench.Proofs.Text.Cuts

/-!
# Diagnostics are read as they are shown

Behind its file, a diagnostic has two numbers, a severity and a message (`IsTail`). A line is read as
the diagnostic with the shortest file that leaves such a tail (`ofLine?_eq_some_iff`). A tail that
begins within a file reaches its message there, for no blank follows the colons of the numbers
behind the file (`IsTail.of_append`). So a diagnostic that was read is read again from the line that
shows it, and so is every other one whose file holds no colon in front of a blank
(`ofLine?_text`).
-/

namespace FaultBench.Diagnostic

open Text

/-! ## What stands behind a file -/

/-- The digits of a number, perhaps with zeros in front. -/
structure IsNumeral (ds : List Char) (n : Nat) : Prop where
  nonempty : ds ≠ []
  digits : ∀ c ∈ ds, c.isDigit = true
  value : Nat.ofDigitChars 10 ds 0 = n

/-- The words for a severity: its name, perhaps with `error` behind it. -/
def IsLabel (w : List Char) (v : Severity) : Prop :=
  w = v.name.toList ∨ w = v.name.toList ++ " error".toList

/-- What may stand behind the file in a line that shows the diagnostic. -/
inductive IsTail : Diagnostic → List Char → Prop
  | intro {d : Diagnostic} {ds es w : List Char} {b b' : Char} (line : IsNumeral ds d.line)
      (column : IsNumeral es d.column) (blank : isBlank b = true) (label : IsLabel w d.severity)
      (blank' : isBlank b' = true) (message : '\n' ∉ d.message.toList) :
    IsTail d (':' :: (ds ++ ':' :: (es ++ ':' :: b :: (w ++ ':' :: b' :: d.message.toList))))

variable {s rest file : List Char} {n : Nat} {v : Severity} {d : Diagnostic}

theorem number?_eq_some (h : number? s = some (n, rest)) : ∃ ds, IsNumeral ds n ∧ s = ds ++ rest := by
  unfold number? at h
  dsimp only at h
  split at h
  · cases h
  next hSome =>
    cases h
    refine ⟨s.takeWhile Char.isDigit, ⟨?_, ?_, rfl⟩, List.takeWhile_append_dropWhile.symm⟩
    · simpa using hSome
    · exact fun c hc => List.mem_takeWhile_imp hc

theorem number?_append {ds : List Char} {c : Char} (h : IsNumeral ds n) (hc : c.isDigit = false) :
    number? (ds ++ c :: rest) = some (n, c :: rest) := by
  rw [number?, takeWhile_append_cons h.digits hc, dropWhile_append_cons h.digits hc]
  simp [h.nonempty, ← h.value, Nat.ofDigitChars]

theorem severity?_eq_some (h : severity? s = some (v, rest)) : ∃ w, IsLabel w v ∧ s = w ++ rest := by
  obtain ⟨v', -, hFound⟩ := List.exists_of_findSome?_eq_some h
  split at hFound
  next hName =>
    obtain ⟨t, rfl⟩ := List.isPrefixOf_iff_prefix.mp hName
    rw [drop_length_append] at hFound
    obtain ⟨rfl, hRest⟩ := Prod.mk.inj (Option.some.inj hFound)
    split at hRest
    next hError =>
      obtain ⟨t, rfl⟩ := List.isPrefixOf_iff_prefix.mp hError
      subst hRest
      exact ⟨_, .inr rfl, (List.append_assoc _ _ _).symm⟩
    next => exact ⟨_, .inl rfl, hRest ▸ rfl⟩
  next => cases hFound

theorem severity?_append {w : List Char} (h : IsLabel w v) :
    severity? (w ++ ':' :: rest) = some (v, ':' :: rest) := by
  rcases h with rfl | rfl <;> cases v <;> rfl

theorem afterColon?_eq_some (h : afterColon? s = some rest) :
    ∃ b, isBlank b = true ∧ s = ':' :: b :: rest := by
  unfold afterColon? at h
  split at h
  next b t =>
    split at h
    next hBlank => exact ⟨b, hBlank, congrArg (':' :: b :: ·) (Option.some.inj h)⟩
    next => cases h
  next => cases h

theorem afterColon?_cons {b : Char} (h : isBlank b = true) :
    afterColon? (':' :: b :: rest) = some rest := if_pos h

theorem isTail_of_tail? (h : tail? file s = some d) :
    IsTail d s ∧ d.file = String.ofList file.reverse := by
  unfold tail? at h
  split at h
  next rest =>
    obtain ⟨⟨line, behind⟩, hLine, hRest⟩ := Option.bind_eq_some_iff.mp h
    dsimp only at hRest
    split at hRest
    next rest' =>
      obtain ⟨⟨column, behind'⟩, hColumn, hRest⟩ := Option.bind_eq_some_iff.mp hRest
      obtain ⟨blank, hBlank, hRest⟩ := Option.bind_eq_some_iff.mp hRest
      obtain ⟨⟨v, behind''⟩, hSeverity, hRest⟩ := Option.bind_eq_some_iff.mp hRest
      obtain ⟨message, hMessage, hRest⟩ := Option.bind_eq_some_iff.mp hRest
      dsimp only at hBlank hMessage hRest
      split at hRest
      next => cases hRest
      next hOneLine =>
        cases hRest
        obtain ⟨ds, hds, rfl⟩ := number?_eq_some hLine
        obtain ⟨es, hes, rfl⟩ := number?_eq_some hColumn
        obtain ⟨b, hb, rfl⟩ := afterColon?_eq_some hBlank
        obtain ⟨w, hw, rfl⟩ := severity?_eq_some hSeverity
        obtain ⟨b', hb', rfl⟩ := afterColon?_eq_some hMessage
        refine ⟨?_, rfl⟩
        have hTail := IsTail.intro
          (d := ⟨String.ofList file.reverse, line, column, v, String.ofList message⟩)
          hds hes hb hw hb'
        rw [String.toList_ofList] at hTail
        exact hTail (by simpa using hOneLine)
    next => cases hRest
  next => cases h

/-- A diagnostic is read from what stands behind its file. -/
theorem tail?_of_isTail (h : IsTail d s) :
    tail? file s = some { d with file := String.ofList file.reverse } := by
  cases h with
  | @intro ds es w b b' hLine hColumn hBlank hLabel hBlank' hMessage =>
      have hStop : Char.isDigit ':' = false := rfl
      have hOneLine : d.message.toList.contains '\n' = false := by simpa using hMessage
      simp only [tail?, number?_append hLine hStop, number?_append hColumn hStop,
        afterColon?_cons hBlank, severity?_append hLabel, afterColon?_cons hBlank',
        Option.bind_eq_bind, Option.bind_some, hOneLine, String.ofList_toList]
      rfl

theorem tail?_eq_none_iff : tail? file s = none ↔ ∀ d, ¬ IsTail d s := by
  constructor
  · intro hNone d hTail
    exact nomatch hNone.symm.trans (tail?_of_isTail hTail)
  · intro hNone
    by_contra hSome
    obtain ⟨d, hd⟩ := Option.ne_none_iff_exists'.mp hSome
    exact hNone d (isTail_of_tail? hd).1

/-! ## The shortest file -/

/-- Of the texts that leave a tail, `front` is the shortest in front of `back`, and it is a line. -/
structure IsShortest (front back : List Char) : Prop where
  nonempty : front ≠ []
  oneLine : '\n' ∉ front
  shortest : ∀ a b, front = a ++ b → a ≠ [] → b ≠ [] → ∀ d, ¬ IsTail d (b ++ back)

variable {c : Char} {front back : List Char}

theorem isShortest_singleton : IsShortest [c] back ↔ c ≠ '\n' := by
  constructor
  · intro h hFeed
    exact h.oneLine (hFeed ▸ List.mem_singleton_self c)
  · intro hFeed
    refine ⟨List.cons_ne_nil _ _, by simpa using hFeed.symm, ?_⟩
    intro a b hParts ha hb
    rcases List.singleton_eq_append_iff.mp hParts with ⟨rfl, -⟩ | ⟨-, rfl⟩
    · exact absurd rfl ha
    · exact absurd rfl hb

theorem isShortest_cons (hFront : front ≠ []) :
    IsShortest (c :: front) back ↔
      c ≠ '\n' ∧ (∀ d, ¬ IsTail d (front ++ back)) ∧ IsShortest front back := by
  constructor
  · intro h
    obtain ⟨hFeed, hLine⟩ := List.ne_and_not_mem_of_not_mem_cons h.oneLine
    refine ⟨hFeed.symm, h.shortest [c] front rfl (List.cons_ne_nil _ _) hFront, hFront, hLine, ?_⟩
    rintro a b rfl - hb
    exact h.shortest (c :: a) b rfl (List.cons_ne_nil _ _) hb
  · rintro ⟨hFeed, hFirst, h⟩
    refine ⟨List.cons_ne_nil _ _, ?_, ?_⟩
    · rw [List.mem_cons, not_or]
      exact ⟨hFeed.symm, h.oneLine⟩
    · intro a b hParts ha hb
      obtain ⟨d, a, rfl⟩ := List.exists_cons_of_ne_nil ha
      obtain ⟨rfl, rfl⟩ := List.cons.inj hParts
      cases a with
      | nil => exact hFirst
      | cons e a => exact h.shortest (e :: a) b rfl (List.cons_ne_nil _ _) hb

theorem exists_of_search (h : search file s = some d) :
    ∃ front back, s = front ++ back ∧ IsShortest front back ∧ IsTail d back ∧
      d.file = String.ofList (file.reverse ++ front) := by
  induction s generalizing file with
  | nil => cases h
  | cons c rest ih =>
      rw [search] at h
      split at h
      · cases h
      next hFeed =>
        have hc : c ≠ '\n' := by simpa using hFeed
        rcases Option.or_eq_some_iff.mp h with hHere | ⟨hNotHere, hLater⟩
        · obtain ⟨hTail, hFile⟩ := isTail_of_tail? hHere
          exact ⟨[c], rest, rfl, isShortest_singleton.mpr hc, hTail, by simpa using hFile⟩
        · obtain ⟨front, back, rfl, hShortest, hTail, hFile⟩ := ih hLater
          refine ⟨c :: front, back, rfl, ?_, hTail, by simpa using hFile⟩
          exact (isShortest_cons hShortest.nonempty).mpr
            ⟨hc, tail?_eq_none_iff.mp hNotHere, hShortest⟩

theorem search_append (hShortest : IsShortest front back) (hTail : IsTail d back) :
    search file (front ++ back) = some { d with file := String.ofList (file.reverse ++ front) } := by
  induction front generalizing file with
  | nil => exact absurd rfl hShortest.nonempty
  | cons c front ih =>
      by_cases hFront : front = []
      · subst hFront
        have hFeed : (c == '\n') = false := by simpa using isShortest_singleton.mp hShortest
        rw [List.cons_append, search, hFeed, List.nil_append, tail?_of_isTail hTail]
        simp
      · obtain ⟨hc, hNone, hShortest⟩ := (isShortest_cons hFront).mp hShortest
        have hFeed : (c == '\n') = false := by simpa using hc
        rw [List.cons_append, search, hFeed, tail?_eq_none_iff.mpr hNone, ih hShortest]
        simp

/-! ## Tails that begin within a file -/

theorem isDigit_of_isBlank {b : Char} (h : isBlank b = true) : b.isDigit = false := by
  by_contra hDigit
  simp only [Char.isDigit, Bool.not_eq_false, Bool.and_eq_true, decide_eq_true_eq, ge_iff_le,
    UInt32.le_iff_toNat_le] at hDigit
  have hLow : 48 ≤ b.toNat := hDigit.1
  have hHigh : b.toNat ≤ 57 := hDigit.2
  simp only [isBlank, Bool.or_eq_true, Bool.and_eq_true, decide_eq_true_eq, beq_iff_eq] at h
  omega

theorem IsNumeral.not_mem {ds : List Char} (h : IsNumeral ds n) : ':' ∉ ds := fun hMem => by
  have hDigit := h.digits ':' hMem
  cases hDigit

theorem IsLabel.not_mem {w : List Char} (h : IsLabel w v) : ':' ∉ w := by
  rcases h with rfl | rfl <;> cases v <;> decide

/-- A tail begins with a colon and a number, a colon and a digit. -/
theorem IsTail.exists_digits (h : IsTail d s) :
    ∃ x ds y t, s = ':' :: (x :: ds ++ ':' :: y :: t) ∧ x.isDigit = true ∧ ':' ∉ x :: ds ∧
      y.isDigit = true := by
  cases h with
  | @intro ds es w b b' hLine hColumn hBlank hLabel hBlank' hMessage =>
      obtain ⟨x, ds, rfl⟩ := List.exists_cons_of_ne_nil hLine.nonempty
      obtain ⟨y, es, rfl⟩ := List.exists_cons_of_ne_nil hColumn.nonempty
      exact ⟨x, ds, y, _, rfl, hLine.digits x List.mem_cons_self, hLine.not_mem,
        hColumn.digits y List.mem_cons_self⟩

theorem IsTail.message_oneLine (h : IsTail d s) : '\n' ∉ d.message.toList := by
  cases h with
  | intro _ _ _ _ _ hMessage => exact hMessage

/-- In front of the severity a colon stands in front of a blank. -/
theorem IsTail.exists_blank (h : IsTail d s) :
    ∃ front b back, s = front ++ ':' :: b :: back ∧ isBlank b = true := by
  cases h with
  | @intro ds es w b b' hLine hColumn hBlank hLabel hBlank' hMessage =>
      exact ⟨':' :: (ds ++ ':' :: es), b, w ++ ':' :: b' :: d.message.toList, by simp, hBlank⟩

/-- A tail stays one whatever follows on its line. -/
theorem IsTail.append {t : List Char} (h : IsTail d s) (ht : '\n' ∉ t) :
    IsTail { d with message := String.ofList (d.message.toList ++ t) } (s ++ t) := by
  cases h with
  | @intro ds es w b b' hLine hColumn hBlank hLabel hBlank' hMessage =>
      have hLonger := IsTail.intro
        (d := { d with message := String.ofList (d.message.toList ++ t) })
        hLine hColumn hBlank hLabel hBlank'
      rw [String.toList_ofList, List.mem_append, not_or] at hLonger
      simpa using hLonger ⟨hMessage, ht⟩

/-- A tail that begins in front of another one reaches its message before the other begins, for the
numbers of the other have digits behind their colons. So what stands there is a tail by itself. -/
theorem IsTail.of_append {d' : Diagnostic} {r : List Char} (hr : r ≠ []) (hTail : IsTail d s)
    (hAcross : IsTail d' (r ++ s)) : ∃ d, IsTail d r := by
  obtain ⟨x, ds, y, rest, rfl, hx, hColon, hy⟩ := hTail.exists_digits
  have hNotDigit {b c : Char} (hb : isBlank b = true) (hc : c.isDigit = true) : b ≠ c := by
    rintro rfl
    exact Bool.false_ne_true ((isDigit_of_isBlank hb).symm.trans hc)
  generalize hAll : r ++ ':' :: (x :: ds ++ ':' :: y :: rest) = all at hAcross
  cases hAcross with
  | @intro ds' es' w b b' hLine hColumn hBlank hLabel hBlank' hMessage =>
      obtain ⟨c, r, rfl⟩ := List.exists_cons_of_ne_nil hr
      rw [List.cons_append, List.cons.injEq] at hAll
      obtain ⟨rfl, hLines⟩ := hAll
      -- The first number ends within `r`, or the second one would be that of `s` and end in a digit.
      obtain ⟨r, rfl, hColumns⟩ := (append_cons_cases hLine.not_mem hLines.symm).resolve_left <| by
        rintro ⟨-, hSame⟩
        obtain ⟨-, hNext⟩ := append_cons_inj hColumn.not_mem hColon hSame
        exact hNotDigit hBlank hy (List.cons.inj hNext).1
      obtain ⟨r, rfl, hLabels⟩ :=
        (append_cons_cases hColumn.not_mem hColumns).resolve_left fun hSame =>
          hNotDigit hBlank hx (List.cons.inj hSame.2).1
      have hWords : ':' ∉ b :: w := by
        rw [List.mem_cons, not_or]
        refine ⟨?_, hLabel.not_mem⟩
        rintro rfl
        cases hBlank
      rw [← List.cons_append] at hLabels
      obtain ⟨r, rfl, hMessages⟩ :=
        (append_cons_cases hWords hLabels).resolve_left fun hSame =>
          hNotDigit hBlank' hx (List.cons.inj hSame.2).1
      cases r with
      | nil =>
          obtain ⟨rfl, -⟩ := List.cons.inj hMessages
          cases hBlank'
      | cons e message =>
          rw [List.cons_append, List.cons.injEq] at hMessages
          obtain ⟨rfl, hText⟩ := hMessages
          rw [hText, List.mem_append, not_or] at hMessage
          have hShorter := IsTail.intro (d := { d' with message := String.ofList message })
            hLine hColumn hBlank hLabel hBlank'
          rw [String.toList_ofList] at hShorter
          exact ⟨_, hShorter hMessage.1⟩

/-! ## Lines that show diagnostics -/

/-- What the line that shows a diagnostic has behind the file. -/
def behindFile (d : Diagnostic) : List Char :=
  ':' :: (Nat.toDigits 10 d.line ++ ':' :: (Nat.toDigits 10 d.column ++ ':' :: ' ' ::
    (d.severity.label.toList ++ ':' :: ' ' :: d.message.toList)))

theorem toList_text (d : Diagnostic) : d.text.toList = d.file.toList ++ d.behindFile := by
  have hPut (s : String) : toString s = s := rfl
  simp [text, behindFile, hPut]

theorem isNumeral_toDigits (n : Nat) : IsNumeral (Nat.toDigits 10 n) n where
  nonempty := Nat.toDigits_ne_nil
  digits _ hc := Nat.isDigit_of_mem_toDigits (by decide) (by decide) hc
  value := Nat.ofDigitChars_ten_toDigits

theorem isLabel_label (v : Severity) : IsLabel v.label.toList v := by
  cases v with
  | fatal => exact .inr rfl
  | _ => exact .inl rfl

theorem isTail_behindFile (h : '\n' ∉ d.message.toList) : IsTail d d.behindFile :=
  .intro (isNumeral_toDigits _) (isNumeral_toDigits _) rfl (isLabel_label _) rfl h

/-- The numbers have at most 32 bits. -/
def InWord (d : Diagnostic) : Prop := d.line ≤ 0xffffffff ∧ d.column ≤ 0xffffffff

theorem ofLine?_eq_some_iff {line : List Char} :
    ofLine? line = some d ↔ d.InWord ∧
      ∃ back, line = d.file.toList ++ back ∧ IsShortest d.file.toList back ∧ IsTail d back := by
  rw [ofLine?, Option.filter_eq_some_iff]
  simp only [InWord, Bool.and_eq_true, decide_eq_true_eq]
  rw [and_comm, and_congr_right_iff]
  intro hWord
  constructor
  · intro hFound
    obtain ⟨front, back, rfl, hShortest, hTail, hFile⟩ := exists_of_search hFound
    have hFront : d.file.toList = front := by simp [hFile]
    exact ⟨back, by rw [hFront], hFront.symm ▸ hShortest, hTail⟩
  · rintro ⟨back, rfl, hShortest, hTail⟩
    rw [search_append hShortest hTail]
    simp

/-- A diagnostic that stays the same when it is shown and read: its numbers have at most 32 bits, its
texts are lines, and in its file, which is not empty, no colon stands in front of a blank. -/
structure IsPlain (d : Diagnostic) : Prop where
  inWord : d.InWord
  nonempty : d.file ≠ ""
  oneLine : '\n' ∉ d.file.toList
  message : '\n' ∉ d.message.toList
  colons : ∀ front b back, d.file.toList = front ++ ':' :: b :: back → isBlank b = false

/-- A shorter file would have been found in the line that was read. -/
theorem ofLine?_text_of_ofLine? {line : List Char} (hLine : '\n' ∉ line)
    (hRead : ofLine? line = some d) : ofLine? d.text.toList = some d := by
  obtain ⟨hWord, back, rfl, hShortest, hTail⟩ := ofLine?_eq_some_iff.mp hRead
  rw [List.mem_append, not_or] at hLine
  have hBehind := isTail_behindFile hTail.message_oneLine
  refine ofLine?_eq_some_iff.mpr ⟨hWord, _, d.toList_text, ?_, hBehind⟩
  refine ⟨hShortest.nonempty, hShortest.oneLine, fun a b hParts ha hb d' hAcross => ?_⟩
  obtain ⟨d'', hShorter⟩ := hBehind.of_append hb hAcross
  exact hShortest.shortest a b hParts ha hb _ (hShorter.append hLine.2)

/-- A shorter file would end in front of a colon that stands in front of a blank. -/
theorem ofLine?_text_of_isPlain (h : d.IsPlain) : ofLine? d.text.toList = some d := by
  have hBehind := isTail_behindFile h.message
  have hNonempty : d.file.toList ≠ [] := fun hNil => h.nonempty (String.toList_eq_nil_iff.mp hNil)
  refine ofLine?_eq_some_iff.mpr ⟨h.inWord, _, d.toList_text, ?_, hBehind⟩
  refine ⟨hNonempty, h.oneLine, fun a b hParts ha hb d' hAcross => ?_⟩
  obtain ⟨d'', hShorter⟩ := hBehind.of_append hb hAcross
  obtain ⟨front, c, back, rfl, hBlank⟩ := hShorter.exists_blank
  have hVisible : isBlank c = false :=
    h.colons (a ++ front) c back (by rw [hParts, List.append_assoc])
  exact Bool.false_ne_true (hVisible.symm.trans hBlank)

/-- What follows on a line belongs to the message. -/
theorem ofLine?_append {line t : List Char} (hLine : '\n' ∉ line) (ht : '\n' ∉ t)
    (hRead : ofLine? line = some d) :
    ofLine? (line ++ t) = some { d with message := String.ofList (d.message.toList ++ t) } := by
  obtain ⟨hWord, back, rfl, hShortest, hTail⟩ := ofLine?_eq_some_iff.mp hRead
  rw [List.mem_append, not_or] at hLine
  refine ofLine?_eq_some_iff.mpr ⟨hWord, back ++ t, List.append_assoc _ _ _, ?_, hTail.append ht⟩
  refine ⟨hShortest.nonempty, hShortest.oneLine, fun a b hParts ha hb d' hAcross => ?_⟩
  obtain ⟨d'', hShorter⟩ := (hTail.append ht).of_append hb hAcross
  exact hShortest.shortest a b hParts ha hb _ (hShorter.append hLine.2)

/-- What is read as a diagnostic is not blank. -/
theorem not_blank_of_ofLine? {line : List Char} (hRead : ofLine? line = some d) :
    isBlankText line = false := by
  obtain ⟨-, back, rfl, -, hTail⟩ := ofLine?_eq_some_iff.mp hRead
  obtain ⟨x, ds, y, t, rfl, -⟩ := hTail.exists_digits
  rw [isBlankText, List.all_eq_false]
  exact ⟨':', by simp, by decide⟩

/-- **Diagnostics are read as they are shown.** A diagnostic that was read in a line is read again in
the line that shows it, and so is every plain one. -/
theorem ofLine?_text :
    (∀ line d, '\n' ∉ line → ofLine? line = some d → ofLine? d.text.toList = some d) ∧
    ∀ d : Diagnostic, d.IsPlain → ofLine? d.text.toList = some d :=
  ⟨fun _ _ hLine hRead => ofLine?_text_of_ofLine? hLine hRead,
    fun _ hPlain => ofLine?_text_of_isPlain hPlain⟩

/-- Two cuts of the line would fit but for what follows the second number, and the numbers have zeros
in front. -/
def crowdedLine : List Char := "a:1:2:x:007:0010:\tfatal:\u3000b:3:4: note: c\r".toList

/-- The file ends as if numbers followed, and the message could be that of another diagnostic. -/
def crowded : Diagnostic := ⟨"a:1:2:", 0xffffffff, 0, .fatal, "b:3:4: error: c"⟩

theorem ofLine?_text_crowded :
    '\n' ∉ crowdedLine ∧
      ofLine? crowdedLine = some ⟨"a:1:2:x", 7, 10, .fatal, "b:3:4: note: c\r"⟩ ∧
      ofLine? (text ⟨"a:1:2:x", 7, 10, .fatal, "b:3:4: note: c\r"⟩).toList =
        some ⟨"a:1:2:x", 7, 10, .fatal, "b:3:4: note: c\r"⟩ ∧
      crowded.IsPlain ∧ ofLine? crowded.text.toList = some crowded := by
  have hLine : '\n' ∉ crowdedLine := by decide
  have hRead : ofLine? crowdedLine = some ⟨"a:1:2:x", 7, 10, .fatal, "b:3:4: note: c\r"⟩ := by decide
  have hVisible : crowded.file.toList.all (!isBlank ·) = true := by decide
  have hPlain : crowded.IsPlain := by
    refine ⟨⟨by decide, by decide⟩, by decide, by decide, by decide, ?_⟩
    intro front b back hParts
    have hMem : b ∈ crowded.file.toList := by simp [hParts]
    simpa using List.all_eq_true.mp hVisible b hMem
  obtain ⟨hReadAgain, hShown⟩ := ofLine?_text
  exact ⟨hLine, hRead, hReadAgain _ _ hLine hRead, hPlain, hShown _ hPlain⟩

end FaultBench.Diagnostic
