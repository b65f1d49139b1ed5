import FaultBench.Proofs.Program.Ranges
import FaultBench.Proofs.Program.WellFormed

/-!
# Synthesized sources are well-formed

The lines of each part of a program are read one by one; a word that stands in a line is of no
account for its brackets. Put together, they make every program that is written a well-formed text:
`wellFormed_of_synthesize`.
-/

namespace FaultBench

open Lexis Text

namespace Lexis

/-! ## Reading lines one by one -/

/-- The lines may be read by themselves, and these are their brackets. -/
structure Reads (ls : List Line) (bs : List Char) : Prop where
  clean : ∀ l ∈ ls, Clean l.text.toList
  brackets_eq : ls.flatMap lineBrackets = bs

/-- What stands around a word that may be put in between. -/
def Frames (a b : List Char) : Prop := Clean (a ++ b) ∧ Place.outside.after a ≠ .escaped

instance (a b : List Char) : Decidable (Frames a b) := inferInstanceAs (Decidable (_ ∧ _))

namespace Reads

variable {ls : List Line} {bs : List Char} {n : Nat} {a w b : String}

theorem closed (h : ∀ l ∈ ls, Clean l.text.toList) : Reads ls (ls.flatMap lineBrackets) := ⟨h, rfl⟩

theorem nil : Reads [] [] := closed (List.forall_mem_nil _)

theorem cons {l : Line} (hl : Clean l.text.toList) (hs : Reads ls bs) :
    Reads (l :: ls) (lineBrackets l ++ bs) where
  clean := List.forall_mem_cons.mpr ⟨hl, hs.clean⟩
  brackets_eq := by
    rw [List.flatMap_cons, hs.brackets_eq]

/-- A line around a word has the brackets that it has without the word. -/
theorem put (h : Frames a.toList b.toList) (hw : IsWord w.toList)
    (hSeam : b.toList.head? ≠ some '(' ∨ w.toList.getLast? ≠ some 'n') (hs : Reads ls bs) :
    Reads (⟨n, a ++ w ++ b⟩ :: ls) (brackets .outside (a.toList ++ b.toList) ++ bs) := by
  have hText : (a ++ w ++ b).toList = a.toList ++ w.toList ++ b.toList := by
    rw [String.toList_append, String.toList_append]
  have hClean : Clean (a ++ w ++ b).toList := hText ▸ h.1.fill hw h.2 hSeam
  have hBrackets : lineBrackets ⟨n, a ++ w ++ b⟩ = brackets .outside (a.toList ++ b.toList) := by
    rw [lineBrackets, hText, brackets_fill hw h.2]
  rw [← hBrackets]
  exact hs.cons (l := ⟨n, a ++ w ++ b⟩) hClean

theorem fill (h : Frames a.toList b.toList ∧ b.toList.head? ≠ some '(') (hw : IsWord w.toList)
    (hs : Reads ls bs) :
    Reads (⟨n, a ++ w ++ b⟩ :: ls) (brackets .outside (a.toList ++ b.toList) ++ bs) :=
  hs.put h.1 hw (.inl h.2)

theorem block (h : Reads ls bs) (hb : closes [] bs = true) : Block ls where
  clean := h.clean
  nested := h.brackets_eq ▸ nested_of_closes hb

end Reads

namespace Block

theorem closed {ls : List Line}
    (h : (∀ l ∈ ls, Clean l.text.toList) ∧ closes [] (ls.flatMap lineBrackets) = true) : Block ls :=
  (Reads.closed h.1).block h.2

/-- A function is nested if its head and its body are. -/
theorem function {f : Function} (hHead : Block [⟨0, f.head⟩]) (hBody : Block f.body) :
    Block f.lines where
  clean := by
    have hMarks : ∀ m ∈ ["\x7b", "\x7d"], Clean m.toList := by decide
    simp only [List.forall_mem_cons] at hMarks
    simp only [Function.lines, List.forall_mem_append, List.forall_mem_cons]
    exact ⟨⟨⟨hHead.clean _ List.mem_cons_self, hMarks.1, List.forall_mem_nil _⟩, hBody.clean⟩,
      hMarks.2.1, List.forall_mem_nil _⟩
  nested := by
    have hOpen : lineBrackets ⟨0, "\x7b"⟩ = ['\x7b'] := by decide
    have hClose : lineBrackets ⟨0, "\x7d"⟩ = ['\x7d'] := by decide
    have hBraces : Nested ('\x7b' :: (f.body.flatMap lineBrackets ++ '\x7d' :: [])) :=
      .enclosed (by decide) hBody.nested .nil
    have hAll := hHead.nested.append hBraces
    simpa [Function.lines, hOpen, hClose] using hAll

end Block

end Lexis

namespace Synthesis

/-! ## The parts of a program -/

variable (c : FaultClass) (v : Variant)

theorem isWord_filler (i n : Nat) :
    IsWord (String.ofList ((List.range' i n).map filler)).toList := by
  have hLetters : ∀ j < 26, KindId.isIdChar (Char.ofNat ('a'.toNat + j)) = true := by decide
  intro c hc
  rw [String.toList_ofList] at hc
  obtain ⟨j, -, rfl⟩ := List.mem_map.mp hc
  exact hLetters _ (Nat.mod_lt j (by decide))

/-- The lines of a literal hold letters between quotes. -/
theorem reads_literalLines (i n : Nat) : Reads (literalLines i n) [] := by
  have hQuotes : brackets .outside ("\"".toList ++ "\"".toList) = [] ∧
      brackets .outside ("\"".toList ++ "\";".toList) = [] := by decide
  -- By the chunks that the text is cut into: the last one ends the definition.
  induction i, n using literalLines.induct with
  | case1 i n hLast =>
      have hReads := Reads.fill (n := 1) (a := "\"") (b := "\";") (by decide)
        (isWord_filler i n) .nil
      have hLine : "\"" ++ String.ofList ((List.range' i n).map filler) ++ "\"" ++ ";" =
          "\"" ++ String.ofList ((List.range' i n).map filler) ++ "\";" :=
        String.append_assoc
      rw [hQuotes.2, ← hLine] at hReads
      rw [literalLines, dif_pos hLast]
      exact hReads
  | case2 i n hLong ih =>
      have hReads := Reads.fill (n := 1) (a := "\"") (b := "\"") (by decide)
        (isWord_filler i chunkLength) ih
      rw [hQuotes.1] at hReads
      rw [literalLines, dif_neg hLong]
      exact hReads

theorem block_globals : Block (globals c v) := by
  unfold globals
  refine .append ?_ ?_
  · split
    · exact .closed (by decide)
    · exact .nil
  · cases c with
    | stackUseAfterScope =>
        have hEscaped : Block [⟨0, "static int *volatile escaped;"⟩] := .closed (by decide)
        exact hEscaped
    | stackBufferOverflow =>
        exact (Reads.cons (by decide) (reads_literalLines _ _)).block (by decide)
    | _ => exact .nil

theorem toList_outOfLine (head : String) :
    (outOfLine head).toList = "__attribute__((noinline)) static ".toList ++ head.toList :=
  String.toList_append

/-- What keeps a function from being inlined has brackets of its own. -/
theorem block_outOfLine {head : String} (h : Block [⟨0, head⟩]) : Block [⟨0, outOfLine head⟩] := by
  have hMark : Clean "__attribute__((noinline)) static ".toList ∧
      "__attribute__((noinline)) static ".toList.getLast? ≠ some 'n' := by decide
  have hBrackets :
      closes [] (brackets .outside "__attribute__((noinline)) static ".toList) = true := by
    decide
  have hText := toList_outOfLine head
  have hHead := h.nested
  constructor
  · rw [List.forall_mem_singleton, hText]
    exact hMark.1.append (h.clean _ List.mem_cons_self) hMark.2
  · rw [List.flatMap_singleton, lineBrackets] at hHead ⊢
    rw [hText, brackets_append, hMark.1.closed]
    exact (nested_of_closes hBrackets).append hHead

theorem block_helpers : ∀ f ∈ helpers c v, Block f.lines := by
  cases c with
  | doubleFree =>
      have hAcquire : Block [⟨0, "void *acquire(size_t amount)"⟩] := .closed (by decide)
      have hRelease : Block [⟨0, "void release(void *block)"⟩] := .closed (by decide)
      exact List.forall_mem_cons.mpr
        ⟨.function (block_outOfLine hAcquire) (.closed (by decide)), List.forall_mem_singleton.mpr
          (.function (block_outOfLine hRelease) (.closed (by decide)))⟩
  | stackBufferOverflow =>
      have hCopy : Block [⟨0, "void copy_into(const char *source)"⟩] := .closed (by decide)
      unfold helpers
      exact List.forall_mem_singleton.mpr <| .function (block_outOfLine hCopy) <|
        (Reads.fill (by decide) (.int _) <| .closed (by decide)).block (by decide)
  | _ => exact List.forall_mem_nil _

theorem block_faultLines : Block (faultLines c v) := by
  cases c with
  | nullDeref =>
      unfold faultLines
      dsimp only
      cases v.access with
      | read => exact .closed (by decide)
      | write => exact .closed (by decide)
  | doubleFree =>
      unfold faultLines
      exact (Reads.fill (by decide) (.int _) <| .closed (by decide)).block
        (by decide)
  | leak =>
      unfold faultLines
      exact (Reads.fill (by decide) (.nat _) <| .fill (by decide) (.int _) <|
        .closed (by decide)).block (by decide)
  | stackBufferOverflow =>
      have hCall : Block [⟨1, "copy_into(overflow_source);"⟩] := .closed (by decide)
      exact hCall
  | stackUseAfterScope =>
      unfold faultLines
      exact (Reads.cons (by decide) <| .fill (by decide) (.int _) <|
        .fill (by decide) (.int _) <| .cons (by decide) <|
        .cons (by decide) <| .fill (by decide) (.int _) <|
        .closed (by decide)).block (by decide)

theorem block_faultSite : Block (faultSite c v).lines := by
  have hHead : Block [⟨0, "void trigger_fault(void)"⟩] := .closed (by decide)
  refine .function (block_outOfLine hHead) (.append ?_ (block_faultLines c v))
  split
  · exact .closed (by decide)
  · exact .nil

theorem isWord_frameName (level : Nat) : IsWord (frameName level).toList := by
  unfold frameName
  split
  · decide
  · have hStem : IsWord "call_depth_".toList := by decide
    rw [String.toList_append]
    exact hStem.append (.nat level)

/-- The name of a frame does not end as `main` does. -/
theorem getLast?_frameName (level : Nat) : (frameName level).toList.getLast? ≠ some 'n' := by
  unfold frameName
  split
  · decide
  · have hDigits : (toString level).toList ≠ [] := by
      rw [Nat.toString_eq_repr, Nat.toList_repr]
      exact Nat.toDigits_ne_nil
    have hDigit : 'n' ∉ (toString level).toList := by
      rw [Nat.toString_eq_repr, Nat.toList_repr]
      exact fun hMem => absurd (Json.isDigit_toDigits _ hMem) (by decide)
    rw [String.toList_append, List.getLast?_append_of_ne_nil _ hDigits]
    exact fun hLast => hDigit (List.mem_of_getLast? hLast)

/-- A line that calls a frame. -/
theorem reads_call (n level : Nat) {ls : List Line} {bs : List Char} (hs : Reads ls bs) :
    Reads (⟨n, s!"{frameName level}();"⟩ :: ls) (['(', ')'] ++ bs) := by
  have hReads := hs.put (n := n) (a := "") (b := "();") (by decide) (isWord_frameName level)
    (.inr (getLast?_frameName level))
  rw [String.empty_append] at hReads
  exact hReads

theorem block_frame (level : Nat) : Block (frame level).lines := by
  have hHead : Block [⟨0, s!"void {frameName level}(void)"⟩] :=
    (Reads.nil.put (a := "void ") (b := "(void)") (by decide) (isWord_frameName level)
      (.inr (getLast?_frameName level))).block (by decide)
  exact .function (block_outOfLine hHead) ((reads_call 1 (level - 1) .nil).block (by decide))

theorem block_mainBody (id : KindId) (depth : Nat) : Block (mainFunction id depth).body := by
  unfold mainFunction
  exact (Reads.fill (by decide) id.isWord_text <| .cons (by decide) <|
    reads_call 1 depth <| .closed (by decide)).block (by decide)

/-! ## The program -/

section Whole

variable (k : Kind)

/-- The lines between the comment and `main`. -/
def frontLines : List Line :=
  [Line.blank] ++ (source k v).headerLines ++ [Line.blank] ++ (source k v).globalLines ++
    (helpers k.faultClass v ++ [faultSite k.faultClass v] ++ callChain v.callDepth).flatMap
      fun f => f.lines ++ [Line.blank]

theorem chars_eq_assemble : (source k v).chars = assemble (source k v).remark (frontLines v k)
    (mainFunction k.id v.callDepth).body := by
  have hFunctions : (source k v).functionLines =
      (helpers k.faultClass v ++ [faultSite k.faultClass v] ++ callChain v.callDepth).flatMap
        (fun f => f.lines ++ [Line.blank]) ++ mainLines (mainFunction k.id v.callDepth).body :=
    Source.functionLines_concat rfl
  rw [Source.chars_eq, assemble_eq, Source.code, Source.codeLines, hFunctions, Lexis.code_eq,
    frontLines]
  simp only [List.append_assoc]

theorem block_headerLines : Block (source k v).headerLines := by
  have hLines : Block [⟨0, "#include <stdio.h>"⟩, ⟨0, "#include <stdlib.h>"⟩,
      ⟨0, "#include <string.h>"⟩] := .closed (by decide)
  exact hLines

theorem block_blank : Block [Line.blank] := .closed (by decide)

theorem block_globalLines : Block (source k v).globalLines := by
  unfold Source.globalLines
  split
  · exact .nil
  · exact (block_globals k.faultClass v).append block_blank

theorem block_frontLines : Block (frontLines v k) := by
  -- What the front is made of, part by part; the functions are told apart by where they come from.
  refine (((block_blank.append (block_headerLines v k)).append block_blank).append
    (block_globalLines v k)).append (.flatMap fun f hf => .append ?_ block_blank)
  simp only [List.mem_append, List.mem_singleton, callChain, List.mem_map] at hf
  rcases hf with (hHelper | rfl) | ⟨level, -, rfl⟩
  · exact block_helpers k.faultClass v f hHelper
  · exact block_faultSite k.faultClass v
  · exact block_frame level

theorem isQuiet_of_isNote {s : List Char} (h : IsNote s) : IsQuiet s := by
  intro c hc
  refine ⟨?_, ne_of_holds (h c hc) rfl, ne_of_holds (h c hc) rfl, ne_of_holds (h c hc) rfl⟩
  have hNote := h c hc
  simp only [isNoteChar, Bool.or_eq_true, beq_iff_eq] at hNote
  rcases hNote with ((hId | rfl) | rfl) | rfl
  · exact lt_of_isPlain (isPlain_of_isIdChar hId)
  · decide
  · decide
  · decide

theorem isQuiet_remark : IsQuiet (source k v).remark := by
  have hTitle : IsQuiet " fault-corpus program\n * kind:    ".toList := by simp [IsQuiet]
  have hClass : IsQuiet " * class:   ".toList := by simp [IsQuiet]
  have hLead : IsQuiet " * ".toList := by simp [IsQuiet]
  have hFeed : IsQuiet ['\n'] := by simp [IsQuiet]
  have hEnd : IsQuiet ['\n', ' '] := by simp [IsQuiet]
  rw [remark_source]
  exact hTitle.append <| (isQuiet_of_isNote k.id.isWord_text.isNote).append <| hFeed.append <|
    hClass.append <| (isQuiet_of_isNote k.faultClass.isWord_name.isNote).append <| hFeed.append <|
    hLead.append <| (isQuiet_of_isNote (isNote_variantNote v)).append hEnd

theorem parts_source : Parts (source k v).remark (frontLines v k)
    (mainFunction k.id v.callDepth).body where
  quiet := isQuiet_remark v k
  block := block_frontLines v k
  mainBlock := block_mainBody k.id v.callDepth
  included := by
    have hHeader : "#include".toList <:+: Line.chars ⟨0, "#include <stdio.h>"⟩ :=
      ⟨[], " <stdio.h>\n".toList, by decide⟩
    have hMem : ⟨0, "#include <stdio.h>"⟩ ∈ (source k v).headerLines := List.mem_cons_self
    have hFront : (source k v).headerLines ⊆ frontLines v k := by
      unfold frontLines
      simp
    rw [List.flatMap_def]
    exact hHeader.trans (List.infix_of_mem_flatten (List.mem_map_of_mem (hFront hMem)))

end Whole

end Synthesis

namespace Kind

variable {k : Kind} {v : Variant} {p : Program}

/-- **Programs are well-formed texts.** -/
theorem wellFormed_of_synthesize (h : k.synthesize v = .ok p) :
    ∃ close main, Lexis.WellFormed p.source.toList close main := by
  obtain ⟨-, rfl⟩ := synthesize_eq_ok_iff.mp h
  have hText : (Synthesis.source k v).text.toList = (Synthesis.source k v).chars :=
    String.toList_ofList
  have hParts := (Synthesis.parts_source v k).wellFormed
  rw [← Synthesis.chars_eq_assemble, ← hText] at hParts
  exact ⟨_, _, hParts⟩

/-- Such is the program that spins in front of an overflow two calls below `main`. -/
theorem wellFormed_of_synthesize_spinning : ∃ p close main,
    (builtin .stackBufferOverflow).synthesize { callDepth := 2, spinForever := true } = .ok p ∧
      Lexis.WellFormed p.source.toList close main := by
  obtain ⟨p, hp⟩ := (exists_synthesize_iff (k := builtin .stackBufferOverflow)
    (v := { callDepth := 2, spinForever := true })).mpr (by decide)
  obtain ⟨close, main, hFormed⟩ := wellFormed_of_synthesize hp
  exact ⟨p, close, main, hp, hFormed⟩

end Kind

end FaultBench
