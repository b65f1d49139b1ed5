import FaultBench.Kind.Variant

/-!
# Classes of faults

The class of a kind fixes which undefined behaviour its programs have, which parameters they use
and what a sanitizer is expected to report.
-/

namespace FaultBench

/-- Which undefined behaviour a program has. -/
inductive FaultClass
  /-- Writes or reads through a null pointer. -/
  | nullDeref
  /-- Releases one allocation twice. -/
  | doubleFree
  /-- Ends with heap blocks that nothing points to. -/
  | leak
  /-- Copies past the end of an array on the stack. -/
  | stackBufferOverflow
  /-- Uses the address of a local variable after the end of its block. -/
  | stackUseAfterScope
  deriving DecidableEq, Repr

/-- A part of the language that a program needs. -/
inductive Construct
  | pointerWrite
  | pointerRead
  | heapAlloc
  | heapRelease
  | aliasingReference
  | fixedStackArray
  | uncheckedCopy
  | blockScope
  | escapingAddress
  | functionCall
  deriving DecidableEq, Repr

namespace Construct

def all : List Construct :=
  [.pointerWrite, .pointerRead, .heapAlloc, .heapRelease, .aliasingReference, .fixedStackArray,
    .uncheckedCopy, .blockScope, .escapingAddress, .functionCall]

def name : Construct → String
  | .pointerWrite => "pointer_write"
  | .pointerRead => "pointer_read"
  | .heapAlloc => "heap_alloc"
  | .heapRelease => "heap_release"
  | .aliasingReference => "aliasing_reference"
  | .fixedStackArray => "fixed_stack_array"
  | .uncheckedCopy => "unchecked_copy"
  | .blockScope => "block_scope"
  | .escapingAddress => "escaping_address"
  | .functionCall => "function_call"

end Construct

namespace FaultClass

/-- Every class, in the order in which their own kinds are registered. -/
def all : List FaultClass :=
  [.nullDeref, .doubleFree, .leak, .stackBufferOverflow, .stackUseAfterScope]

theorem mem_all (c : FaultClass) : c ∈ all := by cases c <;> decide

def name : FaultClass → String
  | .nullDeref => "null_deref"
  | .doubleFree => "double_free"
  | .leak => "leak"
  | .stackBufferOverflow => "stack_buffer_overflow"
  | .stackUseAfterScope => "stack_use_after_scope"

instance : ToString FaultClass := ⟨name⟩

/-- The id of the built-in kind of the class. -/
def canonicalId : FaultClass → KindId
  | .nullDeref => ⟨"null-deref", by decide, List.all_eq_true.1 rfl⟩
  | .doubleFree => ⟨"double-free", by decide, List.all_eq_true.1 rfl⟩
  | .leak => ⟨"leak", by decide, List.all_eq_true.1 rfl⟩
  | .stackBufferOverflow => ⟨"stack-overflow", by decide, List.all_eq_true.1 rfl⟩
  | .stackUseAfterScope => ⟨"use-after-scope", by decide, List.all_eq_true.1 rfl⟩

/-- The class whose built-in kind has the given id. -/
def ofCanonicalId? (id : String) : Option FaultClass := all.find? (·.canonicalId.text == id)

def constructs : FaultClass → List Construct
  | .nullDeref => [.pointerWrite, .pointerRead]
  | .doubleFree => [.heapAlloc, .heapRelease, .aliasingReference, .functionCall]
  | .leak => [.heapAlloc]
  | .stackBufferOverflow => [.fixedStackArray, .uncheckedCopy, .functionCall]
  | .stackUseAfterScope => [.fixedStackArray, .blockScope, .escapingAddress]

/-- A text that the sanitizer's report on such a fault holds. -/
def defaultPattern : FaultClass → String
  | .nullDeref => "SEGV on unknown address"
  | .doubleFree => "attempting double-free"
  | .leak => "detected memory leaks"
  | .stackBufferOverflow => "stack-buffer-overflow"
  | .stackUseAfterScope => "stack-use-after-scope"

def defaultVariant : FaultClass → Variant
  | .stackUseAfterScope => { bufferSize := 5 }
  | _ => {}

end FaultClass

end FaultBench
