/-!
# UTF-8

`decodeLossy` reads bytes as UTF-8 and writes U+FFFD for every maximal part that cannot be read;
`decode?` reads only bytes that are UTF-8 throughout.
-/

namespace FaultBench.Text.Utf8

/-- The second bytes that may follow a first byte of a sequence of two or more, and how many
bytes follow it in all. -/
def leading (b : UInt8) : Option (UInt8 × UInt8 × Nat) :=
  if 0xC2 ≤ b && b ≤ 0xDF then some (0x80, 0xBF, 1)
  else if b == 0xE0 then some (0xA0, 0xBF, 2)
  else if b == 0xED then some (0x80, 0x9F, 2)
  else if 0xE1 ≤ b && b ≤ 0xEF then some (0x80, 0xBF, 2)
  else if b == 0xF0 then some (0x90, 0xBF, 3)
  else if 0xF1 ≤ b && b ≤ 0xF3 then some (0x80, 0xBF, 3)
  else if b == 0xF4 then some (0x80, 0x8F, 3)
  else none

/-- The bits of a first byte that belong to the character, for `n` bytes that follow. -/
def leadingBits (b : UInt8) (n : Nat) : Nat := b.toNat % Nat.pow 2 (6 - n)

def isContinuation (b : UInt8) : Bool := 0x80 ≤ b && b ≤ 0xBF

/-- Reads `n` continuation bytes onto `acc`: the character, if all are there, and the number of
bytes read. -/
def continuation : Nat → Nat → Nat → List UInt8 → Option Char × Nat
  | 0, acc, read, _ => (some (Char.ofNat acc), read)
  | _ + 1, _, read, [] => (none, read)
  | n + 1, acc, read, b :: rest =>
    if isContinuation b then continuation n (64 * acc + b.toNat % 64) (read + 1) rest
    else (none, read)

/-- The character that begins with `b`, or nothing where no character does, and the number of
bytes after `b` that belong to it. -/
def next (b : UInt8) (rest : List UInt8) : Option Char × Nat :=
  if b < 0x80 then (some (Char.ofNat b.toNat), 0)
  else match leading b, rest with
    | some (lo, hi, n + 1), c :: more =>
      if lo ≤ c && c ≤ hi then continuation n (64 * leadingBits b (n + 1) + c.toNat % 64) 1 more
      else (none, 0)
    | _, _ => (none, 0)

/-- The characters of a sequence of bytes, one by one; nothing stands for a part that is not
UTF-8. -/
def scan (bytes : List UInt8) : List (Option Char) :=
  match bytes with
  | [] => []
  | b :: rest => (next b rest).1 :: scan (rest.drop (next b rest).2)
  termination_by bytes.length

def decodeLossy (bytes : List UInt8) : List Char :=
  (scan bytes).map (·.getD (Char.ofNat 0xFFFD))

def decode? (bytes : List UInt8) : Option (List Char) := (scan bytes).mapM id

end FaultBench.Text.Utf8
