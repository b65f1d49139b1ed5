import FaultBench.Proofs.Program.Blocks
import FaultBench.Proofs.Program.Tokens

/-!
# The functions of a program

The parts of a source are read one by one: its comment and its inclusions hold nothing that is read,
its global definitions are no functions, and each function is read with the name in its head and the
tokens of its body (`functions_source`). Ids, numerals and names of frames that stand in the lines
change neither the functions nor what is called in them.
-/

namespace FaultBench

open Lexis Text

namespace Synthesis

/-! ## Names -/

/-- The functions that the fault of a class needs. -/
def helperNames : FaultClass → List (List Char)
  | .doubleFree => ["acquire".toList, "release".toList]
  | .stackBufferOverflow => ["copy_into".toList]
  | _ => []

/-- The function that is `level` calls away from the fault. -/
def levelName : Nat → List Char
  | 0 => "trigger_fault".toList
  | level + 1 => "call_depth_".toList ++ Nat.toDigits 10 (level + 1)

theorem levelName_succ (level : Nat) :
    levelName (level + 1) = "call_depth_".toList ++ Nat.toDigits 10 (level + 1) := rfl

theorem toList_frameName (level : Nat) : (frameName level).toList = levelName level := by
  cases level with
  | zero => rfl
  | succ level =>
      have hDigits : (toString (level + 1)).toList = Nat.toDigits 10 (level + 1) := Nat.toList_repr
      rw [frameName, if_neg (Nat.succ_ne_zero level), levelName_succ, ← hDigits]
      exact String.toList_append

theorem isNameChar_levelName (level : Nat) : ∀ c ∈ levelName level, isNameChar c = true := by
  cases level with
  | zero => exact List.all_eq_true.mp (by decide)
  | succ level =>
      have hStem : "call_depth_".toList.all isNameChar = true := by decide
      exact List.forall_mem_append.mpr ⟨List.all_eq_true.mp hStem,
        fun c hc => isNameChar_of_isDigit (Json.isDigit_toDigits c hc)⟩

theorem levelName_ne_nil (level : Nat) : levelName level ≠ [] := by
  cases level with
  | zero => decide
  | succ level =>
      rw [levelName_succ]
      simp

/-! ## Bodies -/

variable (c : FaultClass) (v : Variant)

/-- The tokens of a statement that calls a function and does nothing else. -/
def callTokens (name : List Char) : List Token := [.word name, .mark '(', .mark ')', .mark ';']

/-- A line that calls a frame. -/
theorem reads_callLine (level : Nat) : Whole (Line.chars ⟨1, s!"{frameName level}();"⟩) ∧
    tokens (Line.chars ⟨1, s!"{frameName level}();"⟩) = callTokens (levelName level) := by
  have hChars : Line.chars ⟨1, s!"{frameName level}();"⟩ =
      "    ".toList ++ (levelName level ++ "();\n".toList) := by
    rw [← toList_frameName]
    simp [Line.chars, toString_text]
  rw [hChars]
  exact reads_word (isNameChar_levelName level) (levelName_ne_nil level) (by decide) (by decide)
    (by decide)

theorem stretch_callLine (level : Nat) :
    Stretch (Line.chars ⟨1, s!"{frameName level}();"⟩) 0 0 [levelName level] := by
  obtain ⟨hWhole, hTokens⟩ := reads_callLine level
  constructor
  · exact hWhole
  · rw [hTokens]
    rfl
  · rw [hTokens]
    rfl
  · rw [hTokens]
    exact fun hHead => Token.noConfusion (Option.some.inj hHead)

/-- What stands in front of parentheses in the statements that bring a fault about. -/
def faultCalls : FaultClass → List (List Char)
  | .nullDeref => []
  | .doubleFree => ["acquire".toList, "if".toList, "release".toList, "free".toList]
  | .leak => ["for".toList, "malloc".toList, "if".toList]
  | .stackBufferOverflow => ["copy_into".toList]
  | .stackUseAfterScope => ["for".toList]

theorem stretch_faultLines : Stretch ((faultLines c v).flatMap Line.chars) 0 0 (faultCalls c) := by
  cases c with
  | nullDeref =>
      unfold faultLines
      dsimp only
      cases v.access <;> decide +kernel
  | doubleFree =>
      have hRest : Stretch (List.flatMap Line.chars
          [⟨1, "unsigned char *volatile second = first;"⟩, ⟨1, "if (first == NULL) \x7b"⟩,
            ⟨2, "return;"⟩, ⟨1, "\x7d"⟩, ⟨1, "first[0] = 1;"⟩, ⟨1, "release(first);"⟩,
            ⟨1, "free(second);"⟩]) 0 0 ["if".toList, "release".toList, "free".toList] := by
        decide +kernel
      exact .fillLine 0 ["acquire".toList] (by decide) (.int _) hRest
  | leak =>
      have hRest : Stretch (List.flatMap Line.chars
          [⟨2, "if (block != NULL) \x7b"⟩, ⟨3, "block[0] = (unsigned char)i;"⟩, ⟨2, "\x7d"⟩,
            ⟨2, "block = NULL;"⟩, ⟨1, "\x7d"⟩]) 1 0 ["if".toList] := by
        decide +kernel
      exact .fillLine 1 ["for".toList] (by decide) (.nat _) <|
        .fillLine 1 ["malloc".toList] (by decide) (.int _) hRest
  | stackBufferOverflow =>
      have hCopy : Stretch (List.flatMap Line.chars [⟨1, "copy_into(overflow_source);"⟩]) 0 0
          ["copy_into".toList] := by
        decide
      exact hCopy
  | stackUseAfterScope =>
      have hRest : Stretch (List.flatMap Line.chars
          [⟨1, "\x7d"⟩, ⟨1, "volatile int value = 20 + *escaped;"⟩, ⟨1, "(void)value;"⟩]) 1 0
          [] := by
        decide +kernel
      exact .line 1 [] (by decide) <| .fillLine 1 [] (by decide) (.int _) <|
        .fillLine 2 ["for".toList] (by decide) (.int _) <| .line 2 [] (by decide) <|
        .line 1 [] (by decide) <| .fillLine 1 [] (by decide) (.int _) hRest

/-- What stands in front of parentheses at the site of a fault. -/
def siteCalls : List (List Char) :=
  (if v.spinForever then ["while".toList] else []) ++ faultCalls c

theorem stretch_faultSite :
    Stretch ((faultSite c v).body.flatMap Line.chars) 0 0 (siteCalls c v) := by
  have hSpin : Stretch (List.flatMap Line.chars
      [⟨1, "while (keep_spinning) \x7b"⟩, ⟨1, "\x7d"⟩]) 0 0 ["while".toList] := by
    decide
  have hBody : (faultSite c v).body.flatMap Line.chars =
      (if v.spinForever then [⟨1, "while (keep_spinning) \x7b"⟩, ⟨1, "\x7d"⟩]
        else []).flatMap Line.chars ++ (faultLines c v).flatMap Line.chars :=
    List.flatMap_append
  rw [hBody, siteCalls]
  refine .append ?_ (stretch_faultLines c v)
  cases v.spinForever with
  | true => exact hSpin
  | false => exact .nil

theorem stretch_frame (level : Nat) :
    Stretch ((frame level).body.flatMap Line.chars) 0 0 [levelName (level - 1)] := by
  have hBody : (frame level).body.flatMap Line.chars =
      Line.chars ⟨1, s!"{frameName (level - 1)}();"⟩ :=
    List.flatMap_singleton _ _
  rw [hBody]
  exact stretch_callLine (level - 1)

theorem stretch_mainBody (id : KindId) (depth : Nat) :
    Stretch ((mainFunction id depth).body.flatMap Line.chars) 0 0
      ["printf".toList, "fflush".toList, levelName depth] := by
  have hPrint : Stretch (Line.chars ⟨1, s!"printf(\"fault-corpus: %s\\n\", \"{id}\");"⟩) 0 0
      ["printf".toList] := by
    have hLine : Stretch ("    printf(\"fault-corpus: %s\\n\", ".toList ++ ");\n".toList) 0 0
        ["printf".toList] ∧
        Stretch.Between "    printf(\"fault-corpus: %s\\n\", ".toList ");\n".toList := by
      decide
    have hChars : Line.chars ⟨1, s!"printf(\"fault-corpus: %s\\n\", \"{id}\");"⟩ =
        "    printf(\"fault-corpus: %s\\n\", ".toList ++
          ('"' :: id.text.toList ++ '"' :: ");\n".toList) := by
      have hText : toString id = id.text := rfl
      simp [Line.chars, hText, toString_text]
    rw [hChars]
    exact .quote hLine id.isWord_text
  have hEnd : Stretch (List.flatMap Line.chars [⟨1, "return 0;"⟩]) 0 0 [] := by decide
  exact .line 0 ["printf".toList] hPrint <| .line 0 ["fflush".toList] (by decide) <|
    .line 0 [levelName depth] (stretch_callLine depth) hEnd

/-! ## Heads -/

/-- The name of a frame stands in front of the parentheses that end its head. -/
theorem heads_frame (level : Nat) :
    Heads (Line.chars ⟨0, outOfLine s!"void {frameName level}(void)"⟩) (levelName level) := by
  have hLead : Whole ("__attribute__((noinline)) static ".toList ++ "void ".toList) ∧
      tokens ("__attribute__((noinline)) static ".toList ++ "void ".toList) =
        [.word "__attribute__".toList, .mark '(', .mark '(', .word "noinline".toList, .mark ')',
          .mark ')', .word "static".toList, .word "void".toList] := by
    decide +kernel
  have hEnd : Whole ("(void)".toList ++ ['\n']) ∧
      tokens ("(void)".toList ++ ['\n']) = [.mark '(', .word "void".toList, .mark ')'] := by
    decide
  have hChars : Line.chars ⟨0, outOfLine s!"void {frameName level}(void)"⟩ =
      ("__attribute__((noinline)) static ".toList ++ "void ".toList) ++
        (levelName level ++ ("(void)".toList ++ ['\n'])) := by
    rw [← toList_frameName, Line.chars, toList_outOfLine]
    simp only [toString_text, String.toList_append]
    simp only [List.append_assoc, Nat.mul_zero, List.replicate_zero, List.nil_append]
  obtain ⟨hWhole, hTokens⟩ := reads_word (isNameChar_levelName level) (levelName_ne_nil level)
    hLead.1 hEnd.1 (by decide)
  rw [hLead.2, hEnd.2] at hTokens
  rw [hChars]
  refine ⟨⟨hWhole, ?_⟩, ?_⟩
  · rw [hTokens]
    simp
  · rw [hTokens]
    rfl

/-! ## Declarations -/

theorem declares_blank : Declares (List.flatMap Line.chars [Line.blank]) [] := by decide

/-- A function and the blank line behind it. -/
theorem declares_spaced {name : List Char} {f : Function} {calls : List (List Char)}
    (hHead : Heads (Line.chars ⟨0, f.head⟩) name)
    (hBody : Stretch (f.body.flatMap Line.chars) 0 0 calls) :
    Declares ((f.lines ++ [Line.blank]).flatMap Line.chars) [.ofFunction name f] := by
  rw [List.flatMap_append]
  exact (Declares.function hHead hBody).append declares_blank

/-- The helpers of a class with their names. -/
def namedHelpers : List (List Char × Function) := (helperNames c).zip (helpers c v)

/-- The helpers of a class as they are read. -/
def helperDefinitions : List Definition :=
  (namedHelpers c v).map fun p => .ofFunction p.1 p.2

/-- Functions that programs call and do not define. -/
def libraryNames : List (List Char) :=
  ["malloc".toList, "free".toList, "strcpy".toList, "printf".toList, "fflush".toList]

theorem reads_helpers : ∀ p ∈ namedHelpers c v, Heads (Line.chars ⟨0, p.2.head⟩) p.1 ∧
    ∃ calls, calls ⊆ libraryNames ∧ Stretch (p.2.body.flatMap Line.chars) 0 0 calls := by
  unfold namedHelpers
  cases c with
  | doubleFree =>
      have hAcquire : Heads (Line.chars ⟨0, outOfLine "void *acquire(size_t amount)"⟩)
          "acquire".toList := by
        decide +kernel
      have hMalloc : Stretch (List.flatMap Line.chars [⟨1, "return malloc(amount);"⟩]) 0 0
          ["malloc".toList] := by
        decide
      have hRelease : Heads (Line.chars ⟨0, outOfLine "void release(void *block)"⟩)
          "release".toList := by
        decide +kernel
      have hFree : Stretch (List.flatMap Line.chars [⟨1, "free(block);"⟩]) 0 0
          ["free".toList] := by
        decide
      exact List.forall_mem_cons.mpr ⟨⟨hAcquire, _, by decide, hMalloc⟩,
        List.forall_mem_singleton.mpr ⟨hRelease, _, by decide, hFree⟩⟩
  | stackBufferOverflow =>
      have hCopy : Heads (Line.chars ⟨0, outOfLine "void copy_into(const char *source)"⟩)
          "copy_into".toList := by
        decide +kernel
      have hRest : Stretch (List.flatMap Line.chars [⟨1, "strcpy(destination, source);"⟩,
          ⟨1, "volatile char sink = destination[0];"⟩, ⟨1, "(void)sink;"⟩]) 0 0
          ["strcpy".toList] := by
        decide +kernel
      have hBody := Stretch.fillLine (d := 0) (n := 1) (a := "char destination[") (b := "];") 0 []
        (by decide) (.int v.bufferSize) hRest
      exact List.forall_mem_singleton.mpr ⟨hCopy, _, by decide, hBody⟩
  | _ => exact List.forall_mem_nil _

theorem declares_helpers :
    Declares (((helpers c v).flatMap fun f => f.lines ++ [Line.blank]).flatMap Line.chars)
      (helperDefinitions c v) := by
  have hLength : (helpers c v).length ≤ (helperNames c).length := by
    cases c <;> exact Nat.le_refl _
  have hHelpers : (namedHelpers c v).map Prod.snd = helpers c v := List.map_snd_zip hLength
  rw [← hHelpers, List.flatMap_map]
  refine .flatMap fun p hp => ?_
  obtain ⟨hHead, calls, -, hBody⟩ := reads_helpers c v p hp
  exact declares_spaced hHead hBody

/-! ## The text that overflows -/

/-- A text of `n` characters from place `i` on, cut into chunks. -/
structure Chunks (i n : Nat) (full : List (List Char)) (last : List Char) : Prop where
  text_eq : full.flatten ++ last = (List.range' i n).map filler
  full_length : ∀ chunk ∈ full, chunk.length = chunkLength
  last_length : last.length ≤ chunkLength
  last_ne_nil : n ≠ 0 → last ≠ []

/-- A chunk between quotes. -/
def chunkText (chunk : List Char) : String := "\"" ++ String.ofList chunk ++ "\""

/-- The lines of a text are those of its chunks, and the last one ends the definition. -/
theorem exists_chunks (i n : Nat) : ∃ full last, Chunks i n full last ∧
    literalLines i n =
      full.map (fun chunk => ⟨1, chunkText chunk⟩) ++ [⟨1, chunkText last ++ ";"⟩] := by
  -- By the chunks that the text is cut into, from the first one on.
  induction i, n using literalLines.induct with
  | case1 i n hLast =>
      refine ⟨[], (List.range' i n).map filler, ⟨rfl, List.forall_mem_nil _, ?_, ?_⟩, ?_⟩
      · simpa using hLast
      · simp
      · rw [literalLines, dif_pos hLast]
        rfl
  | case2 i n hLong ih =>
      obtain ⟨full, last, hChunks, hLines⟩ := ih
      have hSplit : List.range' i n =
          List.range' i chunkLength ++ List.range' (i + chunkLength) (n - chunkLength) := by
        rw [List.range'_append_1, Nat.add_sub_cancel' (by omega)]
      refine ⟨(List.range' i chunkLength).map filler :: full, last, ⟨?_, ?_, ?_, ?_⟩, ?_⟩
      · rw [List.flatten_cons, List.append_assoc, hChunks.text_eq, hSplit, List.map_append]
      · exact List.forall_mem_cons.mpr ⟨by simp, hChunks.full_length⟩
      · exact hChunks.last_length
      · exact fun _ => hChunks.last_ne_nil (by omega)
      · rw [literalLines, dif_neg hLong, hLines]
        rfl

theorem Chunks.isWord {i n : Nat} {full : List (List Char)} {last : List Char}
    (h : Chunks i n full last) : (∀ chunk ∈ full, IsWord chunk) ∧ IsWord last := by
  have hText := isWord_filler i n
  rw [String.toList_ofList, ← h.text_eq] at hText
  obtain ⟨hFull, hLast⟩ := List.forall_mem_append.mp hText
  exact ⟨fun chunk hChunk c hc => hFull c (List.mem_flatten_of_mem hChunk hc), hLast⟩

theorem toList_chunkText (chunk : List Char) :
    (chunkText chunk).toList = '"' :: chunk ++ ['"'] := by
  simp [chunkText]

theorem unended_chunkLine {chunk : List Char} (h : IsWord chunk) :
    Unended (Line.chars ⟨1, chunkText chunk⟩) := by
  have hIndent : Unended "    ".toList := by decide
  have hFeed : Unended ['\n'] := by decide
  have hChars : Line.chars ⟨1, chunkText chunk⟩ =
      "    ".toList ++ ('"' :: chunk ++ '"' :: ['\n']) := by
    simp [Line.chars, toList_chunkText]
  rw [hChars]
  exact hIndent.append (.quoted h hFeed)

/-- The lines of a text end the declaration in front of them. -/
theorem declares_literalLines {s : List Char} (h : Unended s) (i n : Nat) :
    Declares (s ++ (literalLines i n).flatMap Line.chars) [] := by
  obtain ⟨full, last, hChunks, hLines⟩ := exists_chunks i n
  obtain ⟨hFull, hLast⟩ := hChunks.isWord
  have hIndent : Unended "    ".toList := by decide
  have hChars : s ++ (literalLines i n).flatMap Line.chars =
      s ++ full.flatMap (fun chunk => Line.chars ⟨1, chunkText chunk⟩) ++
        ("    ".toList ++ ('"' :: last ++ '"' :: [])) ++ ";\n".toList := by
    rw [hLines, List.flatMap_append, List.flatMap_map]
    simp [Line.chars, toList_chunkText]
  have hLines : Unended (full.flatMap fun chunk => Line.chars ⟨1, chunkText chunk⟩) :=
    .flatMap fun chunk hChunk => unended_chunkLine (hFull chunk hChunk)
  rw [hChars]
  exact .ended ((h.append hLines).append (hIndent.append (.quoted hLast .nil)))

/-! ## The program -/

theorem declares_globals : Declares ((globals c v).flatMap Line.chars) [] := by
  have hSpin : Declares (List.flatMap Line.chars
      (if v.spinForever then [⟨0, "static volatile int keep_spinning = 1;"⟩] else [])) [] := by
    cases v.spinForever <;> decide +kernel
  unfold globals
  rw [List.flatMap_append]
  refine hSpin.append ?_
  cases c with
  | stackUseAfterScope =>
      have hEscaped : Declares (List.flatMap Line.chars
          [⟨0, "static int *volatile escaped;"⟩]) [] := by
        decide +kernel
      exact hEscaped
  | stackBufferOverflow =>
      have hHead : Unended (Line.chars ⟨0, "static const char overflow_source[] ="⟩) := by
        decide +kernel
      exact declares_literalLines hHead 0 _
  | _ => exact .nil

variable (k : Kind)

theorem declares_headerLines : Declares ((source k v).headerLines.flatMap Line.chars) [] := by
  have hLines : Declares (List.flatMap Line.chars [⟨0, "#include <stdio.h>"⟩,
      ⟨0, "#include <stdlib.h>"⟩, ⟨0, "#include <string.h>"⟩]) [] := by
    decide +kernel
  exact hLines

theorem declares_globalLines : Declares ((source k v).globalLines.flatMap Line.chars) [] := by
  unfold Source.globalLines
  split
  · exact .nil
  · rw [List.flatMap_append]
    exact (declares_globals k.faultClass v).append declares_blank

/-- A frame as it is read. -/
def frameDefinition (level : Nat) : Definition := .ofFunction (levelName level) (frame level)

/-- The functions in front of `main` as they are read. -/
def frontDefinitions : List Definition :=
  helperDefinitions c v ++ [.ofFunction (levelName 0) (faultSite c v)] ++
    (List.range' 1 v.callDepth).map frameDefinition

/-- The functions of a program as they are read. -/
def definitions : List Definition :=
  frontDefinitions k.faultClass v ++ [.ofFunction "main".toList (mainFunction k.id v.callDepth)]

theorem declares_functionLines :
    Declares ((source k v).functionLines.flatMap Line.chars) (definitions v k) := by
  have hFunctions : (source k v).functionLines =
      (helpers k.faultClass v ++ [faultSite k.faultClass v] ++ callChain v.callDepth).flatMap
        (fun f => f.lines ++ [Line.blank]) ++ (mainFunction k.id v.callDepth).lines :=
    Source.functionLines_concat rfl
  have hHead : Heads (Line.chars ⟨0, outOfLine "void trigger_fault(void)"⟩) (levelName 0) := by
    decide +kernel
  have hSite := declares_spaced (f := faultSite k.faultClass v) hHead
    (stretch_faultSite k.faultClass v)
  have hMainHead : Heads (Line.chars ⟨0, "int main(void)"⟩) "main".toList := by decide
  have hMain := Declares.function (f := mainFunction k.id v.callDepth) hMainHead
    (stretch_mainBody k.id v.callDepth)
  have hFrames : Declares
      (((callChain v.callDepth).flatMap fun f => f.lines ++ [Line.blank]).flatMap Line.chars)
      ((List.range' 1 v.callDepth).map frameDefinition) := by
    rw [callChain, List.flatMap_map]
    exact .flatMap fun level _ =>
      declares_spaced (f := frame level) (heads_frame level) (stretch_frame level)
  rw [hFunctions, List.flatMap_append, List.flatMap_append, List.flatMap_append,
    List.flatMap_append, List.flatMap_append, List.flatMap_singleton]
  exact (((declares_helpers k.faultClass v).append hSite).append hFrames).append hMain

/-- **What is read of a source** are its functions. -/
theorem functions_source : functions (source k v).chars = definitions v k := by
  have hQuiet : '/' ∉ (source k v).remark := fun hMem => (isQuiet_remark v k _ hMem).2.1 rfl
  have hFeed : Declares ['\n'] [] := by decide
  have hCode : Declares (source k v).code (definitions v k) := by
    rw [Source.code, Source.codeLines, List.flatMap_append, List.flatMap_append,
      List.flatMap_append, List.flatMap_append]
    exact hFeed.append <| (((declares_blank.append (declares_headerLines v k)).append
      declares_blank).append (declares_globalLines v k)).append (declares_functionLines v k)
  rw [Source.chars_eq]
  exact ((Declares.comment hQuiet).append hCode).functions_eq

end Synthesis

end FaultBench
