import FaultBench.Program.Synthesis
import FaultBench.Proofs.Json.Scalars
import FaultBench.Proofs.Text.Cuts

/-!
# Layout of sources

A source is a comment and what follows it (`Source.chars_eq`). What differs between the programs of
kinds and variants are words: ids, numerals and names, none of which holds a blank, a bracket, a
quote or a slash.
-/

namespace FaultBench

/-! ## Words -/

/-- A text that is put into a text is put there as it is. -/
theorem Text.toString_text (s : String) : toString s = s := rfl

theorem Text.ne_of_holds {p : Char → Bool} {c d : Char} (h : p c = true) (hd : p d = false) :
    c ≠ d := by
  rintro rfl
  exact Bool.false_ne_true (hd.symm.trans h)

/-- A text of small letters, digits, hyphens and underscores. -/
def Text.IsWord (s : List Char) : Prop := ∀ c ∈ s, KindId.isIdChar c = true

instance : DecidablePred Text.IsWord := fun s =>
  decidable_of_iff (s.all KindId.isIdChar = true) List.all_eq_true

namespace Text.IsWord

variable {s t : List Char}

theorem append (hs : IsWord s) (ht : IsWord t) : IsWord (s ++ t) :=
  List.forall_mem_append.mpr ⟨hs, ht⟩

theorem not_mem (h : IsWord s) {c : Char} (hc : KindId.isIdChar c = false) : c ∉ s := fun hMem =>
  ne_of_holds (h c hMem) hc rfl

theorem of_isDigit (h : ∀ c ∈ s, c.isDigit = true) : IsWord s := fun c hc => by
  simp [KindId.isIdChar, h c hc]

theorem nat (n : Nat) : IsWord (toString n).toList := by
  refine of_isDigit fun c hc => Json.isDigit_toDigits (n := n) c ?_
  rwa [Nat.toString_eq_repr, Nat.toList_repr] at hc

theorem int (n : Int) : IsWord (toString n).toList := by
  have hDigits : IsWord (Nat.toDigits 10 n.natAbs) := of_isDigit Json.isDigit_toDigits
  rw [Json.toList_toString_int]
  split
  · exact hDigits
  · exact List.forall_mem_cons.mpr ⟨rfl, hDigits⟩

end Text.IsWord

theorem KindId.isWord_text (id : KindId) : Text.IsWord id.text.toList := id.chars

theorem FaultClass.isWord_name (c : FaultClass) : Text.IsWord c.name.toList := by
  cases c <;> decide

theorem FaultClass.name_inj {c d : FaultClass} (h : c.name = d.name) : c = d := by
  cases c <;> cases d <;> first | rfl | exact absurd h (by decide)

theorem Access.isWord_name (a : Access) : Text.IsWord a.name.toList := by
  cases a <;> decide

theorem Access.name_inj {a b : Access} (h : a.name = b.name) : a = b := by
  cases a <;> cases b <;> first | rfl | exact absurd h (by decide)

namespace Source

/-! ## The comment and the code -/

/-- A line between those with the marks of the comment. -/
def noteChars (note : String) : List Char := " * ".toList ++ note.toList ++ ['\n']

/-- What stands between the marks of the comment. -/
def remark (s : Source) : List Char :=
  ' ' :: s.title.toList ++ '\n' :: s.notes.flatMap noteChars ++ [' ']

/-- The lines behind the comment. -/
def codeLines (s : Source) : List Line :=
  [Line.blank] ++ s.headerLines ++ [Line.blank] ++ s.globalLines ++ s.functionLines

/-- What stands behind the comment. -/
def code (s : Source) : List Char := '\n' :: s.codeLines.flatMap Line.chars

theorem chars_note (note : String) : Line.chars ⟨0, " * " ++ note⟩ = noteChars note := by
  simp [Line.chars, noteChars]

theorem chars_eq (s : Source) :
    s.chars = "/*".toList ++ s.remark ++ "*/".toList ++ s.code := by
  simp only [chars, lines, commentLines, List.flatMap_append, List.flatMap_map, chars_note]
  simp [remark, code, codeLines, Line.chars]

/-- A blank line stands behind each function but the last. -/
theorem functionLines_concat {s : Source} {fs : List Function} {f : Function}
    (h : s.functions = fs ++ [f]) :
    s.functionLines = fs.flatMap (fun g => g.lines ++ [Line.blank]) ++ f.lines := by
  rw [functionLines, h]
  clear h
  induction fs with
  | nil => exact List.intercalate_singleton
  | cons g fs ih =>
      rw [List.cons_append, List.map_cons, List.intercalate_cons_of_ne_nil (by simp), ih,
        List.flatMap_cons]
      simp only [List.append_assoc]

end Source

/-! ## The lines of the comment -/

/-- The characters of the comment but for its line feeds and its marks. -/
def Text.isNoteChar (c : Char) : Bool := KindId.isIdChar c || c == ' ' || c == ':' || c == '='

/-- A text that may stand on a line of the comment. -/
def Text.IsNote (s : List Char) : Prop := ∀ c ∈ s, isNoteChar c = true

instance : DecidablePred Text.IsNote := fun s =>
  decidable_of_iff (s.all Text.isNoteChar = true) List.all_eq_true

namespace Text.IsNote

variable {s t : List Char}

theorem append (hs : IsNote s) (ht : IsNote t) : IsNote (s ++ t) :=
  List.forall_mem_append.mpr ⟨hs, ht⟩

theorem not_mem (h : IsNote s) {c : Char} (hc : isNoteChar c = false) : c ∉ s := fun hMem =>
  ne_of_holds (h c hMem) hc rfl

end Text.IsNote

theorem Text.IsWord.isNote {s : List Char} (h : IsWord s) : IsNote s := fun c hc => by
  simp [isNoteChar, h c hc]

namespace Synthesis

open Text

theorem toList_variantNote (v : Variant) : (variantNote v).toList =
    "variant: alloc_size=".toList ++ ((toString v.allocSize).toList ++
    (" buffer_size=".toList ++ ((toString v.bufferSize).toList ++
    (" overflow_by=".toList ++ ((toString v.overflowBy).toList ++
    (" call_depth=".toList ++ ((toString v.callDepth).toList ++
    (" leak_count=".toList ++ ((toString v.leakCount).toList ++
    (" access=".toList ++ (v.access.name.toList ++
    (" spin_forever=".toList ++ (toString v.spinForever).toList)))))))))))) := by
  unfold variantNote
  simp only [toString_text, String.toList_append, List.append_assoc]

theorem isNote_variantNote (v : Variant) : IsNote (variantNote v).toList := by
  have hMarks : ∀ mark ∈ ["variant: alloc_size=", " buffer_size=", " overflow_by=", " call_depth=",
      " leak_count=", " access=", " spin_forever="], IsNote mark.toList := by
    decide
  have hSpin : IsNote (toString v.spinForever).toList := by
    cases v.spinForever <;> decide
  simp only [List.forall_mem_cons] at hMarks
  obtain ⟨hAlloc, hBuffer, hOverflow, hDepth, hCount, hAccess, hForever, -⟩ := hMarks
  rw [toList_variantNote]
  exact hAlloc.append <| (IsWord.int _).isNote.append <| hBuffer.append <|
    (IsWord.int _).isNote.append <| hOverflow.append <| (IsWord.int _).isNote.append <|
    hDepth.append <| (IsWord.nat _).isNote.append <| hCount.append <|
    (IsWord.nat _).isNote.append <| hAccess.append <| v.access.isWord_name.isNote.append <|
    hForever.append hSpin

/-- The comment of a program tells its kind, its class and its variant. -/
theorem remark_source (k : Kind) (v : Variant) : (source k v).remark =
    " fault-corpus program\n * kind:    ".toList ++ (k.id.text.toList ++
      '\n' :: (" * class:   ".toList ++ (k.faultClass.name.toList ++
        '\n' :: (" * ".toList ++ ((variantNote v).toList ++ ['\n', ' ']))))) := by
  have hKind : (s!"kind:    {k.id}").toList = "kind:    ".toList ++ k.id.text.toList :=
    String.toList_append
  have hClass : (s!"class:   {k.faultClass}").toList =
      "class:   ".toList ++ k.faultClass.name.toList := String.toList_append
  simp only [Source.remark, source, List.flatMap_cons, List.flatMap_nil, Source.noteChars, hKind,
    hClass]
  simp

end Synthesis

end FaultBench
