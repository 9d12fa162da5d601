import Settlement.Bytes

/-!
# SHA-512

The 64-bit sibling of SHA-256: blocks of 128 bytes, 80 rounds, a 64-byte result. Signatures use it to
derive scalars.
-/
namespace Settlement.Sha512

structure Words where
  a : UInt64
  b : UInt64
  c : UInt64
  d : UInt64
  e : UInt64
  f : UInt64
  g : UInt64
  h : UInt64

/-- The word turned right by `n` places, for `n` from 1 to 63. -/
def turn (n x : UInt64) : UInt64 :=
  (x >>> n) ||| (x <<< (64 - n))

def start : Words where
  a := 0x6a09e667f3bcc908
  b := 0xbb67ae8584caa73b
  c := 0x3c6ef372fe94f82b
  d := 0xa54ff53a5f1d36f1
  e := 0x510e527fade682d1
  f := 0x9b05688c2b3e6c1f
  g := 0x1f83d9abfb41bd6b
  h := 0x5be0cd19137e2179

def roundConstants : List UInt64 := [
  0x428a2f98d728ae22, 0x7137449123ef65cd, 0xb5c0fbcfec4d3b2f, 0xe9b5dba58189dbbc,
  0x3956c25bf348b538, 0x59f111f1b605d019, 0x923f82a4af194f9b, 0xab1c5ed5da6d8118,
  0xd807aa98a3030242, 0x12835b0145706fbe, 0x243185be4ee4b28c, 0x550c7dc3d5ffb4e2,
  0x72be5d74f27b896f, 0x80deb1fe3b1696b1, 0x9bdc06a725c71235, 0xc19bf174cf692694,
  0xe49b69c19ef14ad2, 0xefbe4786384f25e3, 0x0fc19dc68b8cd5b5, 0x240ca1cc77ac9c65,
  0x2de92c6f592b0275, 0x4a7484aa6ea6e483, 0x5cb0a9dcbd41fbd4, 0x76f988da831153b5,
  0x983e5152ee66dfab, 0xa831c66d2db43210, 0xb00327c898fb213f, 0xbf597fc7beef0ee4,
  0xc6e00bf33da88fc2, 0xd5a79147930aa725, 0x06ca6351e003826f, 0x142929670a0e6e70,
  0x27b70a8546d22ffc, 0x2e1b21385c26c926, 0x4d2c6dfc5ac42aed, 0x53380d139d95b3df,
  0x650a73548baf63de, 0x766a0abb3c77b2a8, 0x81c2c92e47edaee6, 0x92722c851482353b,
  0xa2bfe8a14cf10364, 0xa81a664bbc423001, 0xc24b8b70d0f89791, 0xc76c51a30654be30,
  0xd192e819d6ef5218, 0xd69906245565a910, 0xf40e35855771202a, 0x106aa07032bbd1b8,
  0x19a4c116b8d2d0c8, 0x1e376c085141ab53, 0x2748774cdf8eeb99, 0x34b0bcb5e19b48a8,
  0x391c0cb3c5c95a63, 0x4ed8aa4ae3418acb, 0x5b9cca4f7763e373, 0x682e6ff3d6b2b8a3,
  0x748f82ee5defb2fc, 0x78a5636f43172f60, 0x84c87814a1f0ab72, 0x8cc702081a6439ec,
  0x90befffa23631e28, 0xa4506cebde82bde9, 0xbef9a3f7b2c67915, 0xc67178f2e372532b,
  0xca273eceea26619c, 0xd186b8c721c0c207, 0xeada7dd6cde0eb1e, 0xf57d4f7fee6ed178,
  0x06f067aa72176fba, 0x0a637dc5a2c898a6, 0x113f9804bef90dae, 0x1b710b35131c471b,
  0x28db77f523047d84, 0x32caab7b40c72493, 0x3c9ebe0a15c9bebc, 0x431d67c49c100d4c,
  0x4cc5d4becb3e42b6, 0x597f299cfc657e2a, 0x5fcb6fab3ad6faec, 0x6c44198c4a475817]

/-- The message, a single one bit, zeros, and the bit length, filling whole blocks of 128 bytes. -/
def pad (message : Bytes) : Bytes :=
  message ++ 0x80 :: List.replicate ((239 - message.length % 128) % 128) 0
    ++ Bytes.bigEndian 16 (message.length * 8)

def words : Bytes → List UInt64
  | p :: q :: r :: s :: t :: u :: v :: w :: rest =>
    UInt64.ofNat (Bytes.ofBigEndian [p, q, r, s, t, u, v, w]) :: words rest
  | _ => []

def extend : (n : Nat) → List UInt64 → List UInt64
  | 0, recent => recent
  | n + 1, recent =>
    let back (k : Nat) : UInt64 := recent.getD (k - 1) 0
    let low := turn 1 (back 15) ^^^ turn 8 (back 15) ^^^ (back 15 >>> 7)
    let high := turn 19 (back 2) ^^^ turn 61 (back 2) ^^^ (back 2 >>> 6)
    extend n ((high + back 7 + low + back 16) :: recent)

/-- The 80 words of a block, oldest first. -/
def schedule (block : Bytes) : List UInt64 :=
  (extend 64 (words block).reverse).reverse

def round (v : Words) (input : UInt64) : Words :=
  let choice := (v.e &&& v.f) ^^^ (~~~v.e &&& v.g)
  let majority := (v.a &&& v.b) ^^^ (v.a &&& v.c) ^^^ (v.b &&& v.c)
  let t := v.h + (turn 14 v.e ^^^ turn 18 v.e ^^^ turn 41 v.e) + choice + input
  let u := (turn 28 v.a ^^^ turn 34 v.a ^^^ turn 39 v.a) + majority
  { a := t + u, b := v.a, c := v.b, d := v.c, e := v.d + t, f := v.e, g := v.f, h := v.g }

def compress (v : Words) (block : Bytes) : Words :=
  let w := (List.zipWith (· + ·) roundConstants (schedule block)).foldl round v
  { a := v.a + w.a, b := v.b + w.b, c := v.c + w.c, d := v.d + w.d,
    e := v.e + w.e, f := v.f + w.f, g := v.g + w.g, h := v.h + w.h }

/-- Mixes in `n` blocks of 128 bytes. -/
def absorb : (n : Nat) → Words → Bytes → Words
  | 0, v, _ => v
  | n + 1, v, bytes => absorb n (compress v (bytes.take 128)) (bytes.drop 128)

def Words.bytes (v : Words) : Bytes :=
  Bytes.bigEndian 8 v.a.toNat ++ Bytes.bigEndian 8 v.b.toNat ++ Bytes.bigEndian 8 v.c.toNat
    ++ Bytes.bigEndian 8 v.d.toNat ++ Bytes.bigEndian 8 v.e.toNat ++ Bytes.bigEndian 8 v.f.toNat
    ++ Bytes.bigEndian 8 v.g.toNat ++ Bytes.bigEndian 8 v.h.toNat

def digest (message : Bytes) : Bytes :=
  let padded := pad message
  (absorb (padded.length / 128) start padded).bytes

end Settlement.Sha512
