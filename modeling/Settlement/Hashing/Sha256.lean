import Settlement.Identifier

/-!
# SHA-256

The message is padded to whole blocks of 64 bytes; each block is expanded to 64 words and mixed into
the chaining value in 64 rounds. The digest is the last chaining value, word by word.
-/
namespace Settlement.Sha256

/-- The eight words of a chaining value or of the working variables of a block. -/
structure Words where
  a : UInt32
  b : UInt32
  c : UInt32
  d : UInt32
  e : UInt32
  f : UInt32
  g : UInt32
  h : UInt32

/-- The word turned right by `n` places, for `n` from 1 to 31. -/
def turn (n x : UInt32) : UInt32 :=
  (x >>> n) ||| (x <<< (32 - n))

/-- The initial chaining value. -/
def start : Words where
  a := 0x6a09e667
  b := 0xbb67ae85
  c := 0x3c6ef372
  d := 0xa54ff53a
  e := 0x510e527f
  f := 0x9b05688c
  g := 0x1f83d9ab
  h := 0x5be0cd19

def roundConstants : List UInt32 := [
  0x428a2f98, 0x71374491, 0xb5c0fbcf, 0xe9b5dba5, 0x3956c25b, 0x59f111f1, 0x923f82a4, 0xab1c5ed5,
  0xd807aa98, 0x12835b01, 0x243185be, 0x550c7dc3, 0x72be5d74, 0x80deb1fe, 0x9bdc06a7, 0xc19bf174,
  0xe49b69c1, 0xefbe4786, 0x0fc19dc6, 0x240ca1cc, 0x2de92c6f, 0x4a7484aa, 0x5cb0a9dc, 0x76f988da,
  0x983e5152, 0xa831c66d, 0xb00327c8, 0xbf597fc7, 0xc6e00bf3, 0xd5a79147, 0x06ca6351, 0x14292967,
  0x27b70a85, 0x2e1b2138, 0x4d2c6dfc, 0x53380d13, 0x650a7354, 0x766a0abb, 0x81c2c92e, 0x92722c85,
  0xa2bfe8a1, 0xa81a664b, 0xc24b8b70, 0xc76c51a3, 0xd192e819, 0xd6990624, 0xf40e3585, 0x106aa070,
  0x19a4c116, 0x1e376c08, 0x2748774c, 0x34b0bcb5, 0x391c0cb3, 0x4ed8aa4a, 0x5b9cca4f, 0x682e6ff3,
  0x748f82ee, 0x78a5636f, 0x84c87814, 0x8cc70208, 0x90befffa, 0xa4506ceb, 0xbef9a3f7, 0xc67178f2]

/-- The message, a single one bit, zeros, and the bit length, filling whole blocks of 64 bytes. -/
def pad (message : Bytes) : Bytes :=
  message ++ 0x80 :: List.replicate ((119 - message.length % 64) % 64) 0
    ++ Bytes.bigEndian 8 (message.length * 8)

/-- The big-endian words of a block. -/
def words : Bytes → List UInt32
  | p :: q :: r :: s :: rest =>
    UInt32.ofNat (Bytes.ofBigEndian [p, q, r, s]) :: words rest
  | _ => []

/-- Extends a schedule, held newest word first, by `n` words, each from the words 2, 7, 15 and 16
places before it. -/
def extend : (n : Nat) → List UInt32 → List UInt32
  | 0, recent => recent
  | n + 1, recent =>
    let back (k : Nat) : UInt32 := recent.getD (k - 1) 0
    let low := turn 7 (back 15) ^^^ turn 18 (back 15) ^^^ (back 15 >>> 3)
    let high := turn 17 (back 2) ^^^ turn 19 (back 2) ^^^ (back 2 >>> 10)
    extend n ((high + back 7 + low + back 16) :: recent)

/-- The 64 words of a block, oldest first. -/
def schedule (block : Bytes) : List UInt32 :=
  (extend 48 (words block).reverse).reverse

/-- One round with the sum of its constant and its schedule word. -/
def round (v : Words) (input : UInt32) : Words :=
  let choice := (v.e &&& v.f) ^^^ (~~~v.e &&& v.g)
  let majority := (v.a &&& v.b) ^^^ (v.a &&& v.c) ^^^ (v.b &&& v.c)
  let t := v.h + (turn 6 v.e ^^^ turn 11 v.e ^^^ turn 25 v.e) + choice + input
  let u := (turn 2 v.a ^^^ turn 13 v.a ^^^ turn 22 v.a) + majority
  { a := t + u, b := v.a, c := v.b, d := v.c, e := v.d + t, f := v.e, g := v.f, h := v.g }

/-- Mixes a block into the chaining value. -/
def compress (v : Words) (block : Bytes) : Words :=
  let w := (List.zipWith (· + ·) roundConstants (schedule block)).foldl round v
  { a := v.a + w.a, b := v.b + w.b, c := v.c + w.c, d := v.d + w.d,
    e := v.e + w.e, f := v.f + w.f, g := v.g + w.g, h := v.h + w.h }

/-- Mixes in `n` blocks of 64 bytes. -/
def absorb : (n : Nat) → Words → Bytes → Words
  | 0, v, _ => v
  | n + 1, v, bytes => absorb n (compress v (bytes.take 64)) (bytes.drop 64)

def Words.bytes (v : Words) : Bytes :=
  Bytes.bigEndian 4 v.a.toNat ++ Bytes.bigEndian 4 v.b.toNat ++ Bytes.bigEndian 4 v.c.toNat
    ++ Bytes.bigEndian 4 v.d.toNat ++ Bytes.bigEndian 4 v.e.toNat ++ Bytes.bigEndian 4 v.f.toNat
    ++ Bytes.bigEndian 4 v.g.toNat ++ Bytes.bigEndian 4 v.h.toNat

def digest (message : Bytes) : Digest :=
  let padded := pad message
  ⟨(absorb (padded.length / 64) start padded).bytes, by simp [Words.bytes]⟩

end Settlement.Sha256
