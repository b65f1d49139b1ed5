/-!
# SHA-256

The digest of a sequence of bytes, and its text in hexadecimal.
-/

namespace FaultBench.Digest.Sha256

def roundConstants : List UInt32 :=
  [0x428a2f98, 0x71374491, 0xb5c0fbcf, 0xe9b5dba5, 0x3956c25b, 0x59f111f1, 0x923f82a4, 0xab1c5ed5,
   0xd807aa98, 0x12835b01, 0x243185be, 0x550c7dc3, 0x72be5d74, 0x80deb1fe, 0x9bdc06a7, 0xc19bf174,
   0xe49b69c1, 0xefbe4786, 0x0fc19dc6, 0x240ca1cc, 0x2de92c6f, 0x4a7484aa, 0x5cb0a9dc, 0x76f988da,
   0x983e5152, 0xa831c66d, 0xb00327c8, 0xbf597fc7, 0xc6e00bf3, 0xd5a79147, 0x06ca6351, 0x14292967,
   0x27b70a85, 0x2e1b2138, 0x4d2c6dfc, 0x53380d13, 0x650a7354, 0x766a0abb, 0x81c2c92e, 0x92722c85,
   0xa2bfe8a1, 0xa81a664b, 0xc24b8b70, 0xc76c51a3, 0xd192e819, 0xd6990624, 0xf40e3585, 0x106aa070,
   0x19a4c116, 0x1e376c08, 0x2748774c, 0x34b0bcb5, 0x391c0cb3, 0x4ed8aa4a, 0x5b9cca4f, 0x682e6ff3,
   0x748f82ee, 0x78a5636f, 0x84c87814, 0x8cc70208, 0x90befffa, 0xa4506ceb, 0xbef9a3f7, 0xc67178f2]

/-- The eight words of the chaining value. -/
structure Words where
  a : UInt32
  b : UInt32
  c : UInt32
  d : UInt32
  e : UInt32
  f : UInt32
  g : UInt32
  h : UInt32

def initial : Words :=
  ⟨0x6a09e667, 0xbb67ae85, 0x3c6ef372, 0xa54ff53a, 0x510e527f, 0x9b05688c, 0x1f83d9ab, 0x5be0cd19⟩

def rotateRight (x : UInt32) (n : UInt32) : UInt32 := (x >>> n) ||| (x <<< (32 - n))

/-- One round, with its constant and its word of the message schedule. -/
def round (s : Words) (kw : UInt32 × UInt32) : Words :=
  let big1 := rotateRight s.e 6 ^^^ rotateRight s.e 11 ^^^ rotateRight s.e 25
  let choice := (s.e &&& s.f) ^^^ ((~~~ s.e) &&& s.g)
  let t1 := s.h + big1 + choice + kw.1 + kw.2
  let big0 := rotateRight s.a 2 ^^^ rotateRight s.a 13 ^^^ rotateRight s.a 22
  let majority := (s.a &&& s.b) ^^^ (s.a &&& s.c) ^^^ (s.b &&& s.c)
  ⟨t1 + (big0 + majority), s.a, s.b, s.c, s.d + t1, s.e, s.f, s.g⟩

/-- The next word of the schedule. -/
def extend (w : Array UInt32) : Array UInt32 :=
  let i := w.size
  let x := w.getD (i - 15) 0
  let y := w.getD (i - 2) 0
  let small0 := rotateRight x 7 ^^^ rotateRight x 18 ^^^ (x >>> 3)
  let small1 := rotateRight y 17 ^^^ rotateRight y 19 ^^^ (y >>> 10)
  w.push (w.getD (i - 16) 0 + small0 + w.getD (i - 7) 0 + small1)

def schedule (block : List UInt32) : List UInt32 :=
  ((List.range 48).foldl (fun w _ => extend w) block.toArray).toList

def compress (s : Words) (block : List UInt32) : Words :=
  let t := (roundConstants.zip (schedule block)).foldl round s
  ⟨s.a + t.a, s.b + t.b, s.c + t.c, s.d + t.d, s.e + t.e, s.f + t.f, s.g + t.g, s.h + t.h⟩

/-- The bytes of a number, the highest first. -/
def bigEndian : Nat → Nat → List UInt8
  | 0, _ => []
  | k + 1, n => bigEndian k (n / 256) ++ [UInt8.ofNat (n % 256)]

/-- The message followed by a one bit, zeros and its length in bits, up to a whole number of
blocks of 64 bytes. -/
def pad (bytes : List UInt8) : List UInt8 :=
  bytes ++ (0x80 :: List.replicate ((119 - bytes.length % 64) % 64) 0) ++
    bigEndian 8 (8 * bytes.length)

def toWords : List UInt8 → List UInt32
  | a :: b :: c :: d :: rest =>
    ((a.toUInt32 <<< 24) ||| (b.toUInt32 <<< 16) ||| (c.toUInt32 <<< 8) ||| d.toUInt32) ::
      toWords rest
  | _ => []

/-- The blocks of sixteen words. -/
def blocks (ws : List UInt32) : List (List UInt32) :=
  match ws with
  | [] => []
  | w :: rest => (w :: rest).take 16 :: blocks ((w :: rest).drop 16)
  termination_by ws.length

def hash (bytes : List UInt8) : List UInt32 :=
  let s := (blocks (toWords (pad bytes))).foldl compress initial
  [s.a, s.b, s.c, s.d, s.e, s.f, s.g, s.h]

/-- A word in hexadecimal, eight digits. -/
def hexWord (w : UInt32) : List Char :=
  let ds := Nat.toDigits 16 w.toNat
  List.replicate (8 - ds.length) '0' ++ ds

def hex (bytes : List UInt8) : String := String.ofList ((hash bytes).flatMap hexWord)

/-- The digest of a text, as UTF-8. -/
def ofString (s : String) : String := hex s.toUTF8.toList

end FaultBench.Digest.Sha256
