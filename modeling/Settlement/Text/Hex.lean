import Settlement.Bytes
import Settlement.Text.Utf8

/-!
# Hexadecimal text

Digests are shown in upper case and addresses in lower case; reading accepts either case. A text
is refused for an odd number of bytes before any of its digits is looked at, and otherwise for its
first byte that is no digit.

Results:
* `value?_digit`: a digit reads back as its value in either case.
* `decode_encode`: what was written, in either case, reads back as the same bytes.
* `utf8_text`: the bytes of the written text are its digits.
-/
namespace Settlement.Hex

/-- Upper or lower case of the digits from ten on. -/
inductive Case
  | upper
  | lower
  deriving DecidableEq

/-- Why a text is not hexadecimal. -/
inductive Error
  | oddLength
  | badDigit (byte : UInt8) (position : Nat)
  deriving DecidableEq

/-- The digit for a value below sixteen. -/
def digit (case : Case) (n : Nat) : UInt8 :=
  UInt8.ofNat (if n < 10 then 0x30 + n else
    match case with
    | .upper => 0x37 + n
    | .lower => 0x57 + n)

/-- The value of a digit of either case. -/
def value? (b : UInt8) : Option Nat :=
  if 0x30 ≤ b ∧ b ≤ 0x39 then some (b.toNat - 0x30)
  else if 0x41 ≤ b ∧ b ≤ 0x46 then some (b.toNat - 0x37)
  else if 0x61 ≤ b ∧ b ≤ 0x66 then some (b.toNat - 0x57)
  else none

theorem value?_digit (case : Case) {n : Nat} (h : n < 16) : value? (digit case n) = some n := by
  have all : ∀ n, n < 16 → value? (digit case n) = some n := by
    cases case <;> decide
  exact all n h

/-- Two digits a byte, the high half first. -/
def encode (case : Case) : Bytes → Bytes
  | [] => []
  | b :: rest => digit case (b.toNat / 16) :: digit case (b.toNat % 16) :: encode case rest

def text (case : Case) (bytes : Bytes) : String :=
  Text.ascii (encode case bytes)

/-- The value of one digit, or the complaint that names it. -/
def digitAt (b : UInt8) (position : Nat) : Except Error Nat :=
  match value? b with
  | some n => .ok n
  | none => .error (.badDigit b position)

/-- Reads pairs of digits from `position` on; a single digit at the end is left out, because the
length has been checked before. -/
def decodePairs (position : Nat) : Bytes → Except Error Bytes
  | high :: low :: rest => do
    let h ← digitAt high position
    let l ← digitAt low (position + 1)
    let bytes ← decodePairs (position + 2) rest
    pure (UInt8.ofNat (h * 16 + l) :: bytes)
  | _ => .ok []

def decode (digits : Bytes) : Except Error Bytes :=
  if digits.length % 2 = 1 then .error .oddLength else decodePairs 0 digits

@[simp] theorem length_encode (case : Case) (bytes : Bytes) :
    (encode case bytes).length = 2 * bytes.length := by
  induction bytes with
  | nil => rfl
  | cons b rest ih => simp only [encode, List.length_cons, ih]; omega

theorem digit_lt (case : Case) {n : Nat} (h : n < 16) : digit case n < 0x80 := by
  have all : ∀ n, n < 16 → digit case n < 0x80 := by
    cases case <;> decide
  exact all n h

theorem encode_lt (case : Case) (bytes : Bytes) : ∀ b ∈ encode case bytes, b < 0x80 := by
  induction bytes with
  | nil => simp [encode]
  | cons b rest ih =>
    have hb := b.toNat_lt
    intro x hx
    simp only [encode, List.mem_cons] at hx
    rcases hx with rfl | rfl | hx
    · exact digit_lt case (by omega)
    · exact digit_lt case (by omega)
    · exact ih x hx

theorem utf8_text (case : Case) (bytes : Bytes) : Text.utf8 (text case bytes) = encode case bytes :=
  Text.utf8_ascii (encode_lt case bytes)

theorem decodePairs_encode (case : Case) (position : Nat) (bytes : Bytes) :
    decodePairs position (encode case bytes) = .ok bytes := by
  induction bytes generalizing position with
  | nil => rfl
  | cons b rest ih =>
    have hb := b.toNat_lt
    have back : UInt8.ofNat (b.toNat / 16 * 16 + b.toNat % 16) = b := by
      rw [show b.toNat / 16 * 16 + b.toNat % 16 = b.toNat by omega]
      simp
    simp [encode, decodePairs, digitAt, value?_digit case (show b.toNat / 16 < 16 by omega),
      value?_digit case (show b.toNat % 16 < 16 by omega), ih, back, bind, Except.bind, pure,
      Except.pure]

theorem decode_encode (case : Case) (bytes : Bytes) : decode (encode case bytes) = .ok bytes := by
  rw [decode, if_neg (by rw [length_encode]; omega), decodePairs_encode]

end Settlement.Hex
