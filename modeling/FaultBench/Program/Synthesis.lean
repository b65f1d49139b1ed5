import FaultBench.Program
import FaultBench.Program.Source
import FaultBench.SetupError

/-!
# Synthesis

`Kind.synthesize` writes the program of a kind for a variant. The faults are reached through
`volatile` objects and functions that are not inlined, so that a compiler cannot remove them.
-/

namespace FaultBench

/-! ## Which variants are possible -/

namespace Variant

def maxAllocSize : Int := 1048576
def maxBufferSize : Int := 4096
def maxOverflowBy : Int := 4096
def maxCallDepth : Nat := 32
def maxLeakCount : Int := 64

/-- A parameter, the greatest value it may have, and the value that it has. -/
abbrev Limit := String × Int × Int

/-- The limits of the parameters that a class uses, in the order in which they are checked. -/
def limits (v : Variant) : FaultClass → List Limit
  | .nullDeref => []
  | .doubleFree => [("alloc_size", maxAllocSize, v.allocSize)]
  | .leak => [("alloc_size", maxAllocSize, v.allocSize), ("leak_count", maxLeakCount, v.leakCount)]
  | .stackBufferOverflow =>
    [("buffer_size", maxBufferSize, v.bufferSize), ("overflow_by", maxOverflowBy, v.overflowBy)]
  | .stackUseAfterScope => [("buffer_size", maxBufferSize, v.bufferSize)]

def Limit.flaw? (l : Limit) : Option VariantFlaw :=
  if 1 ≤ l.2.2 ∧ l.2.2 ≤ l.2.1 then none else some (.outOfRange l.1 l.2.1 l.2.2)

/-- What keeps a class from having a program for the variant. -/
def flaw? (v : Variant) (c : FaultClass) : Option VariantFlaw :=
  if maxCallDepth < v.callDepth then some (.tooDeep maxCallDepth v.callDepth)
  else (v.limits c).findSome? Limit.flaw?

end Variant

/-! ## The parts of a program -/

namespace Synthesis

/-- The character at place `i` of the text that overflows. -/
def filler (i : Nat) : Char := Char.ofNat ('a'.toNat + i % 26)

/-- The characters of the literals that the overflowing text is cut into. -/
def chunkLength : Nat := 64

/-- The lines that define a literal of `n` characters from place `i` on. -/
def literalLines (i n : Nat) : List Line :=
  let chunk (m : Nat) := "\"" ++ String.ofList ((List.range' i m).map filler) ++ "\""
  if _ : n ≤ chunkLength then [⟨1, chunk n ++ ";"⟩]
  else ⟨1, chunk chunkLength⟩ :: literalLines (i + chunkLength) (n - chunkLength)
  termination_by n
  decreasing_by simp only [chunkLength] at *; omega

def globals (c : FaultClass) (v : Variant) : List Line :=
  (if v.spinForever then [⟨0, "static volatile int keep_spinning = 1;"⟩] else []) ++
  match c with
  | .stackUseAfterScope => [⟨0, "static int *volatile escaped;"⟩]
  | .stackBufferOverflow =>
    ⟨0, "static const char overflow_source[] ="⟩ ::
      literalLines 0 (v.bufferSize + v.overflowBy - 1).toNat
  | _ => []

/-- The head of a function that is not inlined. -/
def outOfLine (head : String) : String := "__attribute__((noinline)) static " ++ head

/-- The functions that the fault of a class needs. -/
def helpers (c : FaultClass) (v : Variant) : List Function :=
  match c with
  | .doubleFree =>
    [⟨outOfLine "void *acquire(size_t amount)", [⟨1, "return malloc(amount);"⟩]⟩,
     ⟨outOfLine "void release(void *block)", [⟨1, "free(block);"⟩]⟩]
  | .stackBufferOverflow =>
    [⟨outOfLine "void copy_into(const char *source)",
      [⟨1, s!"char destination[{v.bufferSize}];"⟩,
       ⟨1, "strcpy(destination, source);"⟩,
       ⟨1, "volatile char sink = destination[0];"⟩,
       ⟨1, "(void)sink;"⟩]⟩]
  | _ => []

/-- The statements that bring the fault about. -/
def faultLines (c : FaultClass) (v : Variant) : List Line :=
  match c with
  | .nullDeref =>
    ⟨1, "int *volatile target = NULL;"⟩ ::
      match v.access with
      | .write => [⟨1, "*target = 16;"⟩]
      | .read => [⟨1, "volatile int sink = *target;"⟩, ⟨1, "(void)sink;"⟩]
  | .doubleFree =>
    [⟨1, s!"unsigned char *first = acquire({v.allocSize});"⟩,
     ⟨1, "unsigned char *volatile second = first;"⟩,
     ⟨1, "if (first == NULL) \x7b"⟩,
     ⟨2, "return;"⟩,
     ⟨1, "\x7d"⟩,
     ⟨1, "first[0] = 1;"⟩,
     ⟨1, "release(first);"⟩,
     ⟨1, "free(second);"⟩]
  | .leak =>
    [⟨1, s!"for (int i = 0; i < {v.leakCount}; i++) \x7b"⟩,
     ⟨2, s!"unsigned char *volatile block = malloc({v.allocSize});"⟩,
     ⟨2, "if (block != NULL) \x7b"⟩,
     ⟨3, "block[0] = (unsigned char)i;"⟩,
     ⟨2, "\x7d"⟩,
     ⟨2, "block = NULL;"⟩,
     ⟨1, "\x7d"⟩]
  | .stackBufferOverflow => [⟨1, "copy_into(overflow_source);"⟩]
  | .stackUseAfterScope =>
    [⟨1, "\x7b"⟩,
     ⟨2, s!"int scoped[{v.bufferSize}];"⟩,
     ⟨2, s!"for (int i = 0; i < {v.bufferSize}; i++) \x7b"⟩,
     ⟨3, "scoped[i] = i;"⟩,
     ⟨2, "\x7d"⟩,
     ⟨2, s!"escaped = &scoped[{v.bufferSize.tdiv 2}];"⟩,
     ⟨1, "\x7d"⟩,
     ⟨1, "volatile int value = 20 + *escaped;"⟩,
     ⟨1, "(void)value;"⟩]

/-- The function with the fault, which in a variant that spins is never reached. -/
def faultSite (c : FaultClass) (v : Variant) : Function :=
  ⟨outOfLine "void trigger_fault(void)",
    (if v.spinForever then [⟨1, "while (keep_spinning) \x7b"⟩, ⟨1, "\x7d"⟩] else []) ++
      faultLines c v⟩

/-- The name of the function `level` calls away from the fault. -/
def frameName (level : Nat) : String :=
  if level = 0 then "trigger_fault" else s!"call_depth_{level}"

/-- The function that calls the one a level nearer to the fault. -/
def frame (level : Nat) : Function :=
  ⟨outOfLine s!"void {frameName level}(void)", [⟨1, s!"{frameName (level - 1)}();"⟩]⟩

def callChain (depth : Nat) : List Function := (List.range' 1 depth).map frame

def mainFunction (id : KindId) (depth : Nat) : Function :=
  ⟨"int main(void)",
    [⟨1, s!"printf(\"fault-corpus: %s\\n\", \"{id}\");"⟩,
     ⟨1, "fflush(stdout);"⟩,
     ⟨1, s!"{frameName depth}();"⟩,
     ⟨1, "return 0;"⟩]⟩

/-- The line of the comment that holds all parameters. -/
def variantNote (v : Variant) : String :=
  s!"variant: alloc_size={v.allocSize} buffer_size={v.bufferSize} overflow_by={v.overflowBy}" ++
    s!" call_depth={v.callDepth} leak_count={v.leakCount} access={v.access.name}" ++
    s!" spin_forever={v.spinForever}"

/-- The source of a kind's program. -/
def source (k : Kind) (v : Variant) : Source where
  title := "fault-corpus program"
  notes := [s!"kind:    {k.id}", s!"class:   {k.faultClass}", variantNote v]
  headers := ["stdio.h", "stdlib.h", "string.h"]
  globals := globals k.faultClass v
  functions := helpers k.faultClass v ++ [faultSite k.faultClass v] ++ callChain v.callDepth ++
    [mainFunction k.id v.callDepth]

end Synthesis

namespace Kind

/-- The program of a kind for a variant. -/
def synthesize (k : Kind) (v : Variant) : Except SetupError Program :=
  match v.flaw? k.faultClass with
  | some flaw => .error (.unsupportedVariant k.id flaw)
  | none => .ok (.ofSource k.id k.faultClass v (Synthesis.source k v).text)

/-- The program of a kind for the variant that it has by default. -/
def synthesizeDefault (k : Kind) : Except SetupError Program := k.synthesize k.variant

end Kind

end FaultBench
