import FaultBench.Proofs.Text.Split
import FaultBench.Proofs.Program.Functions

/-!
# Texts that overflow

The program of an overflow defines a text on the lines behind `overflow_source` and copies it to an
array. Put together from these lines, the text is longer than the array by what the variant asks for
(`overflow_of_synthesize`), and its length is the one that a machine computes.
-/

namespace FaultBench

open Lexis Text

/-! ## Lines of sources -/

/-- A line without its line feed. -/
def Line.content (l : Line) : List Char := List.replicate (4 * l.indent) ' ' ++ l.text.toList

theorem splitOn_flatMap_chars {ls : List Line} (h : ∀ l ∈ ls, '\n' ∉ l.content) (t : List Char) :
    splitOn '\n' (ls.flatMap Line.chars ++ t) = ls.map Line.content ++ splitOn '\n' t := by
  have hChars : ls.flatMap Line.chars = (ls.map Line.content).flatMap (· ++ ['\n']) := by
    rw [List.flatMap_map]
    rfl
  rw [hChars, splitOn_flatMap (List.forall_mem_map.mpr h)]

namespace Lexis

/-! ## Reading the text -/

/-- How the definition of the text begins. -/
def overflowHead : List Char := "static const char overflow_source[]".toList

def lacksHead (line : List Char) : Bool := !overflowHead.isPrefixOf line

def opensQuote (line : List Char) : Bool := (line.dropWhile (· == ' ')).head? == some '"'

/-- The lines behind the one on which the definition of the text begins, as far as they begin with
quotes. -/
def overflowLines (s : List Char) : List (List Char) :=
  (((splitOn '\n' s).dropWhile lacksHead).drop 1).takeWhile opensQuote

/-- The characters between the quotes of a line. -/
def betweenQuotes (line : List Char) : List Char :=
  ((line.dropWhile (· != '"')).drop 1).takeWhile (· != '"')

/-- The text, put together from its lines. -/
def overflowText (s : List Char) : List Char := (overflowLines s).flatMap betweenQuotes

/-- A line that holds a chunk between quotes. -/
def chunkLine (chunk : List Char) : List Char := List.replicate 4 ' ' ++ '"' :: chunk ++ ['"']

theorem opensQuote_chunkLine (chunk t : List Char) : opensQuote (chunkLine chunk ++ t) = true := rfl

theorem betweenQuotes_chunkLine {chunk : List Char} (h : IsWord chunk) (t : List Char) :
    betweenQuotes (chunkLine chunk ++ t) = chunk := by
  have hQuote : ∀ c ∈ chunk, (c != '"') = true := fun c hc =>
    bne_iff_ne.mpr (ne_of_holds (h c hc) rfl)
  have hLine : (chunkLine chunk ++ t).dropWhile (· != '"') = '"' :: (chunk ++ '"' :: t) := by
    simp [chunkLine]
  rw [betweenQuotes, hLine, List.drop_one, List.tail_cons, List.takeWhile_append_of_pos hQuote,
    List.takeWhile_cons_of_neg (by decide), List.append_nil]

theorem lacksHead_of_not_mem {line : List Char} (h : '[' ∉ line) : lacksHead line = true := by
  have hBracket : '[' ∈ overflowHead := by decide
  rw [lacksHead, Bool.not_eq_true', ← Bool.not_eq_true, List.isPrefixOf_iff_prefix]
  exact fun hPrefix => h (hPrefix.subset hBracket)

theorem lacksHead_append (line : List Char) : ¬ lacksHead (overflowHead ++ line) = true := by
  rw [lacksHead, List.isPrefixOf_iff_prefix.mpr (List.prefix_append _ _)]
  exact Bool.false_ne_true

/-- No line in front of the definition of the text holds a bracket, and the line behind it is
empty. -/
theorem overflowLines_eq {s head : List Char} {front lines rest : List (List Char)}
    (hSplit : splitOn '\n' s = front ++ (overflowHead ++ head) :: (lines ++ [] :: rest))
    (hFront : ∀ line ∈ front, '[' ∉ line) (hLines : ∀ line ∈ lines, opensQuote line = true) :
    overflowLines s = lines := by
  have hLacks : ∀ line ∈ front, lacksHead line = true := fun line hLine =>
    lacksHead_of_not_mem (hFront line hLine)
  rw [overflowLines, hSplit, List.dropWhile_append_of_pos hLacks,
    List.dropWhile_cons_of_neg (lacksHead_append head), List.drop_one, List.tail_cons,
    List.takeWhile_append_of_pos hLines, List.takeWhile_cons_of_neg (by decide), List.append_nil]

end Lexis

namespace Synthesis

variable (v : Variant) (k : Kind)

/-! ## The lines of the text -/

theorem not_mem_remark : '[' ∉ (source k v).remark := by
  have hClass := k.faultClass.isWord_name.not_mem (c := '[') rfl
  have hFeed : '[' ≠ '\n' := by decide
  rw [remark_source]
  exact List.not_mem_append (by decide) <|
    List.not_mem_append (k.id.isWord_text.not_mem rfl) <|
    List.not_mem_cons_of_ne_of_not_mem hFeed <| List.not_mem_append (by decide) <|
    List.not_mem_append hClass <| List.not_mem_cons_of_ne_of_not_mem hFeed <|
    List.not_mem_append (by decide) <|
    List.not_mem_append ((isNote_variantNote v).not_mem rfl) (by decide)

/-- The lines between the comment and the definition of the text. -/
def leadLines : List Line :=
  [Line.blank] ++ (source k v).headerLines ++ [Line.blank] ++
    if v.spinForever then [⟨0, "static volatile int keep_spinning = 1;"⟩] else []

/-- The lines that define the text. -/
def textLines : List Line :=
  ⟨0, "static const char overflow_source[] ="⟩ ::
    literalLines 0 (v.bufferSize + v.overflowBy - 1).toNat

theorem not_mem_leadLines : ∀ l ∈ leadLines v k, '\n' ∉ l.content ∧ '[' ∉ l.content := by
  have hHeaders : (source k v).headerLines = [⟨0, "#include <stdio.h>"⟩,
      ⟨0, "#include <stdlib.h>"⟩, ⟨0, "#include <string.h>"⟩] := rfl
  rw [leadLines, hHeaders]
  cases v.spinForever <;> decide

theorem content_chunk (chunk : List Char) :
    Line.content ⟨1, chunkText chunk⟩ = chunkLine chunk := by
  simp [Line.content, chunkLine, toList_chunkText]

theorem content_lastChunk (chunk : List Char) :
    Line.content ⟨1, chunkText chunk ++ ";"⟩ = chunkLine chunk ++ [';'] := by
  simp [Line.content, chunkLine, toList_chunkText]

theorem not_mem_chunkLine {chunk : List Char} (h : IsWord chunk) : '\n' ∉ chunkLine chunk :=
  List.not_mem_append (List.not_mem_append (by decide)
    (List.not_mem_cons_of_ne_of_not_mem (by decide) (h.not_mem rfl))) (by decide)

theorem codeLines_overflow (hClass : k.faultClass = .stackBufferOverflow) :
    (source k v).codeLines =
      leadLines v k ++ textLines v ++ [Line.blank] ++ (source k v).functionLines := by
  have hGlobals : (source k v).globals =
      (if v.spinForever then [⟨0, "static volatile int keep_spinning = 1;"⟩] else []) ++
        textLines v := by
    have hClassGlobals : (source k v).globals = globals k.faultClass v := rfl
    rw [hClassGlobals, hClass]
    rfl
  have hSome : (source k v).globals.isEmpty = false := by
    rw [hGlobals]
    simp [textLines]
  rw [Source.codeLines, Source.globalLines, hSome, if_neg Bool.false_ne_true, hGlobals, leadLines]
  simp only [List.append_assoc]

/-- The lines of the text are those of its chunks. -/
theorem exists_overflowLines (hClass : k.faultClass = .stackBufferOverflow) : ∃ full last,
    Chunks 0 (v.bufferSize + v.overflowBy - 1).toNat full last ∧
      overflowLines (source k v).chars = full.map chunkLine ++ [chunkLine last ++ [';']] := by
  obtain ⟨full, last, hChunks, hLines⟩ :=
    exists_chunks 0 (v.bufferSize + v.overflowBy - 1).toNat
  obtain ⟨hFull, hLast⟩ := hChunks.isWord
  refine ⟨full, last, hChunks, ?_⟩
  have hText : (textLines v).map Line.content = (overflowHead ++ " =".toList) ::
      (full.map chunkLine ++ [chunkLine last ++ [';']]) := by
    have hHead : Line.content ⟨0, "static const char overflow_source[] ="⟩ =
        overflowHead ++ " =".toList := by
      decide
    rw [textLines, List.map_cons, hHead, hLines, List.map_append, List.map_map]
    simp only [Function.comp_def, content_chunk, List.map_cons, List.map_nil, content_lastChunk]
  have hFeeds : ∀ l ∈ leadLines v k ++ textLines v ++ [Line.blank], '\n' ∉ l.content := by
    have hTextFeeds : ∀ content ∈ (textLines v).map Line.content, '\n' ∉ content := by
      rw [hText]
      refine List.forall_mem_cons.mpr ⟨by decide, List.forall_mem_append.mpr ⟨?_, ?_⟩⟩
      · intro content hContent
        obtain ⟨chunk, hChunk, rfl⟩ := List.mem_map.mp hContent
        exact not_mem_chunkLine (hFull chunk hChunk)
      · rw [List.forall_mem_singleton, List.mem_append, not_or]
        exact ⟨not_mem_chunkLine hLast, by decide⟩
    refine List.forall_mem_append.mpr ⟨List.forall_mem_append.mpr ⟨?_, ?_⟩, ?_⟩
    · exact fun l hl => (not_mem_leadLines v k l hl).1
    · exact fun l hl => hTextFeeds _ (List.mem_map_of_mem hl)
    · exact List.forall_mem_singleton.mpr List.not_mem_nil
  have hSplit : splitOn '\n' (source k v).chars =
      (splitOn '\n' ("/*".toList ++ (source k v).remark ++ "*/".toList) ++
        (leadLines v k).map Line.content) ++ (overflowHead ++ " =".toList) ::
          ((full.map chunkLine ++ [chunkLine last ++ [';']]) ++ [] ::
            splitOn '\n' ((source k v).functionLines.flatMap Line.chars)) := by
    rw [Source.chars_eq, Source.code, splitOn_append_cons, codeLines_overflow v k hClass,
      List.flatMap_append, splitOn_flatMap_chars hFeeds, List.map_append, List.map_append, hText]
    simp [Line.content, Line.blank]
  have hComment : '[' ∉ "/*".toList ++ (source k v).remark ++ "*/".toList :=
    List.not_mem_append (List.not_mem_append (by decide) (not_mem_remark v k)) (by decide)
  refine overflowLines_eq hSplit (List.forall_mem_append.mpr ⟨?_, ?_⟩)
    (List.forall_mem_append.mpr ⟨?_, ?_⟩)
  · exact fun line hLine hMem => hComment (subset_of_mem_splitOn hLine hMem)
  · intro line hLine
    obtain ⟨l, hl, rfl⟩ := List.mem_map.mp hLine
    exact (not_mem_leadLines v k l hl).2
  · intro line hLine
    obtain ⟨chunk, -, rfl⟩ := List.mem_map.mp hLine
    have hOpens := opensQuote_chunkLine chunk []
    rwa [List.append_nil] at hOpens
  · exact List.forall_mem_singleton.mpr (opensQuote_chunkLine last [';'])

/-! ## The size of the array -/

/-- The tokens that define an array of `size` characters to copy to. -/
def destinationTokens (size : Int) : List Token :=
  [.word "char".toList, .word "destination".toList, .mark '[', .word (Nat.toDigits 10 size.toNat),
    .mark ']', .mark ';']

theorem reads_destination (h : 1 ≤ v.bufferSize) :
    Whole (Line.chars ⟨1, s!"char destination[{v.bufferSize}];"⟩) ∧
      tokens (Line.chars ⟨1, s!"char destination[{v.bufferSize}];"⟩) =
        destinationTokens v.bufferSize := by
  have hDigits : (toString v.bufferSize).toList = Nat.toDigits 10 v.bufferSize.toNat := by
    have hSize : v.bufferSize.natAbs = v.bufferSize.toNat := by omega
    rw [Json.toList_toString_int, if_pos (by omega), hSize]
  have hName : ∀ c ∈ Nat.toDigits 10 v.bufferSize.toNat, isNameChar c = true := fun c hc =>
    isNameChar_of_isDigit (Json.isDigit_toDigits c hc)
  have hChars : Line.chars ⟨1, s!"char destination[{v.bufferSize}];"⟩ =
      "    char destination[".toList ++ (Nat.toDigits 10 v.bufferSize.toNat ++ "];\n".toList) := by
    rw [← hDigits]
    simp [Line.chars, toString_text]
  rw [hChars]
  exact reads_word hName Nat.toDigits_ne_nil (by decide) (by decide) (by decide)

theorem exists_destination (hClass : k.faultClass = .stackBufferOverflow) (h : 1 ≤ v.bufferSize) :
    ∃ d ∈ functions (source k v).chars, d.name = "copy_into".toList ∧
      destinationTokens v.bufferSize <+: d.body := by
  obtain ⟨hWhole, hTokens⟩ := reads_destination v h
  have hHelper : ∃ body, helperDefinitions .stackBufferOverflow v =
      [⟨"copy_into".toList, tokens (Line.chars ⟨1, s!"char destination[{v.bufferSize}];"⟩ ++
        body)⟩] := ⟨_, rfl⟩
  obtain ⟨body, hHelper⟩ := hHelper
  rw [tokens_append hWhole, hTokens] at hHelper
  rw [functions_source, definitions, frontDefinitions, hClass, hHelper]
  exact ⟨_, List.mem_append_left _ (List.mem_append_left _ (List.mem_append_left _
    (List.mem_singleton_self _))), rfl, List.prefix_append _ _⟩

/-! ## The text and the array -/

def alphabet : List Char := "abcdefghijklmnopqrstuvwxyz".toList

theorem getElem?_alphabet (i : Nat) : alphabet[i % 26]? = some (filler i) := by
  have hLetters : ∀ j < 26, alphabet[j]? = some (Char.ofNat ('a'.toNat + j)) := by decide
  exact hLetters _ (Nat.mod_lt i (by decide))

/-- The text is too long by `excess` characters, the one that ends it among them, for the array of
`size` characters to copy it to. -/
structure Overflow (s : List Char) (size excess : Int) : Prop where
  lines_ne_nil : overflowLines s ≠ []
  full : ∀ line ∈ (overflowLines s).dropLast,
    line = chunkLine (betweenQuotes line) ∧ (betweenQuotes line).length = 64
  last : ∀ line ∈ (overflowLines s).getLast?,
    line = chunkLine (betweenQuotes line) ++ [';'] ∧
      1 ≤ (betweenQuotes line).length ∧ (betweenQuotes line).length ≤ 64
  length_eq : ((overflowText s).length : Int) + 1 = size + excess
  excess_pos : 1 ≤ excess
  cyclic : ∀ i c, (overflowText s)[i]? = some c → alphabet[i % 26]? = some c
  destination : ∃ d ∈ functions s, d.name = "copy_into".toList ∧ destinationTokens size <+: d.body
  /-- Numbers of 64 bits hold the sum, the length and the length without a sign. -/
  machine : (Int64.ofInt size + Int64.ofInt excess).toInt = size + excess ∧
    (Int64.ofInt size + Int64.ofInt excess - 1).toInt = size + excess - 1 ∧
    (Int64.ofInt size + Int64.ofInt excess - 1).toUInt64.toNat = (overflowText s).length

theorem machine_length {size excess : Int} (hSize : 1 ≤ size ∧ size ≤ 4096)
    (hExcess : 1 ≤ excess ∧ excess ≤ 4096) :
    (Int64.ofInt size + Int64.ofInt excess).toInt = size + excess ∧
      (Int64.ofInt size + Int64.ofInt excess - 1).toInt = size + excess - 1 ∧
      (Int64.ofInt size + Int64.ofInt excess - 1).toUInt64.toNat = (size + excess - 1).toNat := by
  have hSum : (Int64.ofInt size + Int64.ofInt excess).toInt = size + excess := by
    rw [← Int64.ofInt_add, Int64.toInt_ofInt_of_le (by omega) (by omega)]
  have hLength : (Int64.ofInt size + Int64.ofInt excess - 1).toInt = size + excess - 1 := by
    have hOne : (1 : Int64) = Int64.ofInt 1 := rfl
    rw [hOne, ← Int64.ofInt_add, ← Int64.ofInt_sub,
      Int64.toInt_ofInt_of_le (by omega) (by omega)]
  have hNonneg : 0 ≤ Int64.ofInt size + Int64.ofInt excess - 1 := by
    rw [Int64.le_iff_toInt_le, hLength, Int64.toInt_zero]
    omega
  refine ⟨hSum, hLength, ?_⟩
  rw [Int64.toNat_toUInt64_of_le hNonneg, ← Int64.toNat_toInt, hLength]

theorem overflow_source (hClass : k.faultClass = .stackBufferOverflow)
    (hSize : 1 ≤ v.bufferSize ∧ v.bufferSize ≤ 4096)
    (hExcess : 1 ≤ v.overflowBy ∧ v.overflowBy ≤ 4096) :
    Overflow (source k v).chars v.bufferSize v.overflowBy := by
  obtain ⟨full, last, hChunks, hLines⟩ := exists_overflowLines v k hClass
  obtain ⟨hFull, hLast⟩ := hChunks.isWord
  obtain ⟨hSum, hLength, hUnsigned⟩ := machine_length hSize hExcess
  have hChunk : ∀ chunk ∈ full, betweenQuotes (chunkLine chunk) = chunk := fun chunk hMem => by
    have hQuotes := betweenQuotes_chunkLine (hFull chunk hMem) []
    rwa [List.append_nil] at hQuotes
  have hText : overflowText (source k v).chars =
      (List.range' 0 (v.bufferSize + v.overflowBy - 1).toNat).map filler := by
    rw [overflowText, hLines, List.flatMap_append, List.flatMap_map, List.flatMap_singleton,
      betweenQuotes_chunkLine hLast, ← hChunks.text_eq, List.flatMap_congr hChunk,
      List.flatMap_id']
  have hTextLength : (overflowText (source k v).chars).length =
      (v.bufferSize + v.overflowBy - 1).toNat := by
    rw [hText, List.length_map, List.length_range']
  constructor
  case lines_ne_nil =>
    rw [hLines]
    simp
  case full =>
    intro line hLine
    rw [hLines, List.dropLast_concat] at hLine
    obtain ⟨chunk, hMem, rfl⟩ := List.mem_map.mp hLine
    rw [hChunk chunk hMem]
    exact ⟨rfl, hChunks.full_length chunk hMem⟩
  case last =>
    intro line hLine
    rw [hLines, List.getLast?_concat] at hLine
    obtain rfl := Option.some.inj hLine
    rw [betweenQuotes_chunkLine hLast]
    have hSome : last ≠ [] := hChunks.last_ne_nil (by omega)
    exact ⟨rfl, List.length_pos_of_ne_nil hSome, hChunks.last_length⟩
  case length_eq =>
    rw [hTextLength]
    omega
  case excess_pos => exact hExcess.1
  case cyclic =>
    intro i c hc
    rw [hText, List.getElem?_map, Option.map_eq_some_iff] at hc
    obtain ⟨j, hj, rfl⟩ := hc
    obtain ⟨hi, rfl⟩ := List.getElem?_eq_some_iff.mp hj
    rw [List.getElem_range', Nat.zero_add, Nat.one_mul]
    exact getElem?_alphabet i
  case destination => exact exists_destination v k hClass hSize.1
  case machine => exact ⟨hSum, hLength, hUnsigned.trans hTextLength.symm⟩

end Synthesis

namespace Kind

variable {k : Kind} {v : Variant} {p : Program}

/-- **The text of an overflow is too long by what the variant asks for.** -/
theorem overflow_of_synthesize (h : k.synthesize v = .ok p)
    (hClass : k.faultClass = .stackBufferOverflow) :
    Synthesis.Overflow p.source.toList v.bufferSize v.overflowBy := by
  obtain ⟨hRange, rfl⟩ := synthesize_eq_ok_iff.mp h
  have hText : (Synthesis.source k v).text.toList = (Synthesis.source k v).chars :=
    String.toList_ofList
  rw [hClass] at hRange
  have hOverflow := Synthesis.overflow_source v k hClass hRange.2.1 hRange.2.2
  rw [← hText] at hOverflow
  exact hOverflow

/-- So is a text of which no chunk is shorter than the others. -/
theorem overflow_of_synthesize_full : ∃ p : Program,
    (builtin .stackBufferOverflow).synthesize { bufferSize := 100, overflowBy := 29 } = .ok p ∧
      Synthesis.Overflow p.source.toList 100 29 := by
  obtain ⟨p, hp⟩ := (exists_synthesize_iff (k := builtin .stackBufferOverflow)
    (v := { bufferSize := 100, overflowBy := 29 })).mpr (by decide)
  exact ⟨p, hp, overflow_of_synthesize hp rfl⟩

end Kind

end FaultBench
