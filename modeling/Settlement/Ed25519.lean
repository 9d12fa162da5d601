import Settlement.Hashing.Sha512

/-!
# Ed25519 signatures

A signing key is a seed of 32 bytes. Its digest gives a secret scalar and a secret from which the
nonce of each message is derived, so signing is deterministic. A signature is a point and a scalar, 32
bytes each; it is valid if the scalar is below the order of the base point and the point is, byte for
byte, the one that the scalar, the key and the message give.

Results:
* `length_publicKey`, `length_sign`: keys have 32 bytes and signatures 64.
-/
namespace Settlement.Ed25519

/-!
## The curve

Points of the twisted Edwards curve `-x² + y² = 1 + d x² y²` over the integers modulo `2^255 - 19`, in
extended coordinates, where addition needs no case distinction. A point is written in 32 bytes: the
little-endian `y`, with the parity of `x` in the highest bit.
-/

/-- The size of the field. -/
def prime : Nat := (1 <<< 255) - 19

theorem prime_ne_zero : prime ≠ 0 := by decide

instance : @NeZero Nat Zero.ofOfNat0 prime :=
  @NeZero.mk Nat Zero.ofOfNat0 prime prime_ne_zero

abbrev Field := Fin prime

/-- The order of the base point. -/
def order : Nat := (1 <<< 252) + 27742317777372353535851937790883648493

/-- `x` to the power of the lowest `bits` bits of `e`. -/
def power (x : Field) : (bits e : Nat) → Field
  | 0, _ => 1
  | bits + 1, e =>
    let half := power x bits (e / 2)
    if e % 2 = 1 then half * half * x else half * half

def inverse (x : Field) : Field :=
  power x 255 (prime - 2)

def curveConstant : Field :=
  Fin.ofNat prime 37095705934669439343138083508754565189542113879843219016388785533085940283555

def rootOfMinusOne : Field :=
  power 2 255 ((prime - 1) / 4)

/-- A square root of a field element, if it has one. -/
def squareRoot? (x : Field) : Option Field :=
  let candidate := power x 255 ((prime + 3) / 8)
  if candidate * candidate = x then some candidate
  else
    let other := candidate * rootOfMinusOne
    if other * other = x then some other else none

/-- A point in extended coordinates: `x = X / Z`, `y = Y / Z` and `x y = T / Z`. -/
structure Point where
  X : Field
  Y : Field
  Z : Field
  T : Field

namespace Point

def zero : Point := ⟨0, 1, 1, 0⟩

def ofCoordinates (x y : Field) : Point := ⟨x, y, 1, x * y⟩

def base : Point :=
  ofCoordinates
    (Fin.ofNat prime 15112221349535400772501151409588531511454012693041857206046113283949847762202)
    (Fin.ofNat prime 46316835694926478169428394003475163141307993866256225615783033603165251855960)

def add (p q : Point) : Point :=
  let a := (p.Y - p.X) * (q.Y - q.X)
  let b := (p.Y + p.X) * (q.Y + q.X)
  let c := p.T * 2 * curveConstant * q.T
  let d := p.Z * 2 * q.Z
  let e := b - a
  let f := d - c
  let g := d + c
  let h := b + a
  ⟨e * f, g * h, f * g, e * h⟩

def neg (p : Point) : Point := ⟨-p.X, p.Y, p.Z, -p.T⟩

/-- The multiple of a point by the lowest `bits` bits of `n`. -/
def scale (p : Point) : (bits n : Nat) → Point
  | 0, _ => zero
  | bits + 1, n =>
    let half := scale p bits (n / 2)
    let double := add half half
    if n % 2 = 1 then add double p else double

/-- The multiple of a point by a number below `2^256`. -/
def times (n : Nat) (p : Point) : Point := scale p 256 n

def compress (p : Point) : Bytes :=
  let z := inverse p.Z
  let x := p.X * z
  let y := p.Y * z
  Bytes.littleEndian 32 (y.val + ((x.val % 2) <<< 255))

@[simp] theorem length_compress (p : Point) : p.compress.length = 32 := by
  simp [compress]

/-- The point that 32 bytes denote, if any. The low 255 bits are taken modulo the size of the field,
and the parity bit turns zero into itself. -/
def decompress? (bytes : Bytes) : Option Point := do
  let n := Bytes.ofLittleEndian bytes
  let y := Fin.ofNat prime (n % (1 <<< 255))
  let root ← squareRoot? ((y * y - 1) * inverse (curveConstant * (y * y) + 1))
  let x := if root.val % 2 = (n >>> 255) % 2 then root else -root
  some (ofCoordinates x y)

end Point

/-! ## Keys and signatures -/

structure SigningKey where
  seed : Bytes

/-- A scalar from bytes, modulo the order of the base point. -/
def scalarOf (bytes : Bytes) : Nat :=
  Bytes.ofLittleEndian bytes % order

/-- The scalar that binds a signature to its point, key and message. -/
def challenge (point key message : Bytes) : Nat :=
  scalarOf (Sha512.digest (point ++ key ++ message))

namespace SigningKey

/-- The secret scalar: a multiple of eight with its highest bit at place 254. -/
def secret (k : SigningKey) : Nat :=
  let n := Bytes.ofLittleEndian ((Sha512.digest k.seed).take 32)
  let high := 1 <<< 254
  high + n % high / 8 * 8

def publicKey (k : SigningKey) : Bytes :=
  (Point.base.times k.secret).compress

def sign (k : SigningKey) (message : Bytes) : Bytes :=
  let nonce := scalarOf (Sha512.digest ((Sha512.digest k.seed).drop 32 ++ message))
  let point := (Point.base.times nonce).compress
  let s := (nonce + challenge point k.publicKey message * k.secret) % order
  point ++ Bytes.littleEndian 32 s

@[simp] theorem length_publicKey (k : SigningKey) : k.publicKey.length = 32 := by
  simp [publicKey]

@[simp] theorem length_sign (k : SigningKey) (message : Bytes) : (k.sign message).length = 64 := by
  simp [sign]

end SigningKey

def verify (key message signature : Bytes) : Bool :=
  if key.length ≠ 32 ∨ signature.length ≠ 64 then false
  else
    match Point.decompress? key with
    | none => false
    | some a =>
      let point := signature.take 32
      let s := Bytes.ofLittleEndian (signature.drop 32)
      s < order &&
        ((Point.base.times s).add (a.times (challenge point key message)).neg).compress == point

end Settlement.Ed25519
