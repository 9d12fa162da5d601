/-!
# Byte strings

Keys, records and signed layouts are byte strings. The logic keeps them as lists of bytes, so that
every statement about a layout is a statement about lists.

Results:
* `length_bigEndian`: a big-endian field has exactly the width it was given.
* `ofBigEndian_bigEndian`: a number that fits its field reads back from it.
-/
namespace Settlement

abbrev Bytes := List UInt8

namespace Bytes

/-- The `width` low-order bytes of `n`, least significant first. -/
def littleEndian : (width n : Nat) → Bytes
  | 0, _ => []
  | width + 1, n => UInt8.ofNat n :: littleEndian width (n / 256)

@[simp] theorem length_littleEndian (width n : Nat) : (littleEndian width n).length = width := by
  induction width generalizing n with
  | zero => rfl
  | succ width ih => simp [littleEndian, ih]

/-- The number whose little-endian digits in base 256 are the given bytes. -/
def ofLittleEndian : Bytes → Nat
  | [] => 0
  | b :: rest => b.toNat + 256 * ofLittleEndian rest

/-- The `width` low-order bytes of `n`, most significant first. -/
def bigEndian (width n : Nat) : Bytes :=
  (littleEndian width n).reverse

@[simp] theorem length_bigEndian (width n : Nat) : (bigEndian width n).length = width := by
  simp [bigEndian]

/-- The number whose big-endian digits in base 256 are the given bytes. -/
def ofBigEndian (bytes : Bytes) : Nat :=
  ofLittleEndian bytes.reverse

/-- A number that fits the width is the value of its little-endian bytes. -/
theorem ofLittleEndian_littleEndian {width n : Nat} (h : n < Nat.pow 256 width) :
    ofLittleEndian (littleEndian width n) = n := by
  induction width generalizing n with
  | zero =>
    simp only [Nat.pow_zero, Nat.lt_one_iff, Nat.pow_eq] at h
    simp [littleEndian, ofLittleEndian, h]
  | succ width ih =>
    rw [Nat.pow_eq, Nat.pow_succ] at h
    have hq : n / 256 < Nat.pow 256 width := by
      rw [Nat.pow_eq]
      omega
    simp only [littleEndian, ofLittleEndian, ih hq, UInt8.toNat_ofNat', Nat.reducePow]
    omega

theorem ofBigEndian_bigEndian {width n : Nat} (h : n < Nat.pow 256 width) :
    ofBigEndian (bigEndian width n) = n := by
  rw [ofBigEndian, bigEndian, List.reverse_reverse, ofLittleEndian_littleEndian h]

end Bytes

end Settlement
