import FaultBench.Environment
import FaultBench.Text.Utf8

/-!
# Processes

What a process shows of itself: two outputs, the status with which it ends, and how long that takes.
An output is read in parts, and no more is kept of it than a limit allows.
-/

namespace FaultBench

/-- How a process ended. -/
inductive ExitStatus
  | code (n : Nat)
  | signal (n : Nat)
  deriving DecidableEq, Repr

namespace ExitStatus

def isSuccess (s : ExitStatus) : Bool := s == .code 0

def code? : ExitStatus → Option Nat
  | .code n => some n
  | .signal _ => none

def signal? : ExitStatus → Option Nat
  | .code _ => none
  | .signal n => some n

/-- What became of a process. -/
def fate : ExitStatus → String
  | .code n => s!"exited with status {n}"
  | .signal n => s!"killed by signal {n}"

/-- The names of the signals, from 1 up. -/
def signalNames : List String :=
  ["SIGHUP", "SIGINT", "SIGQUIT", "SIGILL", "SIGTRAP", "SIGABRT", "SIGBUS", "SIGFPE", "SIGKILL",
    "SIGUSR1", "SIGSEGV", "SIGUSR2", "SIGPIPE", "SIGALRM", "SIGTERM", "SIGSTKFLT", "SIGCHLD",
    "SIGCONT", "SIGSTOP", "SIGTSTP", "SIGTTIN", "SIGTTOU", "SIGURG", "SIGXCPU", "SIGXFSZ",
    "SIGVTALRM", "SIGPROF", "SIGWINCH", "SIGIO", "SIGPWR", "SIGSYS"]

def text : ExitStatus → String
  | .code n => s!"exit status: {n}"
  | .signal n =>
    match (("" :: signalNames)[n]?).filter (· != "") with
    | some name => s!"signal: {n} ({name})"
    | none => s!"signal: {n}"

end ExitStatus

/-- What a process did from its start to its end. -/
structure Activity where
  stdout : List UInt8
  stderr : List UInt8
  status : ExitStatus
  /-- How long it took until the process had ended and its outputs were closed. -/
  tookMs : Nat

/-- The parts in which an output is read, each of `size` bytes at most. -/
def parts (size : Nat) (bytes : List UInt8) : List (List UInt8) :=
  if _h : size = 0 ∨ bytes = [] then []
  else bytes.take size :: parts size (bytes.drop size)
  termination_by bytes.length
  decreasing_by
    have : 0 < bytes.length := List.length_pos_iff.2 fun e => _h (Or.inr e)
    simp only [List.length_drop]
    omega

/-- How much is read of an output at once. -/
def partSize : Nat := 8192

/-- What is kept of an output as it is read, and whether something is not. -/
structure Capture where
  kept : List UInt8 := []
  cut : Bool := false
  deriving DecidableEq, Repr

namespace Capture

/-- Keeps of a part what there is room for. -/
def add (limit : Nat) (c : Capture) (part : List UInt8) : Capture :=
  let room := limit - c.kept.length
  ⟨c.kept ++ part.take room, c.cut || decide (room < part.length)⟩

/-- Reads an output to its end, which is where a read gives nothing. `reads` is what one read after
the other gives; those that are not made are left. -/
def drain (limit : Nat) (c : Capture) (reads : List (List UInt8)) : Capture × List (List UInt8) :=
  match reads with
  | [] => (c, [])
  | part :: rest => if part.isEmpty then (c, rest) else drain limit (c.add limit part) rest

/-- What is kept of an output. -/
def ofOutput (limit : Nat) (bytes : List UInt8) : Capture :=
  (drain limit {} (parts partSize bytes)).1

end Capture

/-- The text of bytes, whatever they are. -/
def textOf (bytes : List UInt8) : String := String.ofList (Text.Utf8.decodeLossy bytes)

end FaultBench
