import Settlement.Text.Quoted

/-!
# Digests, addresses and escrow names

A digest is 32 bytes and names a transaction, an account output or a hash-locked contract. It is
shown as 64 upper-case hexadecimal digits, is read in either case, and is ordered byte by byte, which
is the order that transaction inputs are sorted by. Addresses and escrow names are chosen by their
holders and opaque to the ledger: two are the same exactly when their texts are equal, and their order
is the order of their texts.

Results:
* `Digest.ofText_text`: a digest read back from its own text is unchanged.
-/
namespace Settlement

/-!
## Refusals of the value types

Digests, amounts and coins refuse malformed text and arithmetic outside their range. A refusal
names its cause; the wording is in one function.
-/

/-- Why a value could not be read or computed. -/
inductive ValueError
  | invalidHex (cause : Hex.Error)
  | invalidLength (expected actual : Nat)
  | invalidCoin (text : String)
  | denomMismatch (left right : String)
  | overflow
  | underflow
  deriving DecidableEq

def Hex.Error.message : Hex.Error → String
  | .oddLength => "Odd number of digits"
  | .badDigit byte position =>
    "Invalid character " ++ Text.quotedByte byte ++ " at position " ++ toString position

namespace ValueError

/-- The name of the refusal, for callers that sort by kind. -/
def kind : ValueError → String
  | invalidHex _ => "InvalidHex"
  | invalidLength .. => "InvalidLength"
  | invalidCoin _ => "InvalidCoin"
  | denomMismatch .. => "DenomMismatch"
  | overflow => "Overflow"
  | underflow => "Underflow"

def message : ValueError → String
  | invalidHex cause => "Invalid hex: " ++ cause.message
  | invalidLength expected actual =>
    "Invalid length: expected " ++ toString expected ++ " bytes, got " ++ toString actual
  | invalidCoin text => "Invalid coin: " ++ text
  | denomMismatch left right => "Denomination mismatch: " ++ left ++ " vs " ++ right
  | overflow => "Arithmetic overflow"
  | underflow => "Arithmetic underflow"

end ValueError

/-! ## Digests -/

structure Digest where
  bytes : Bytes
  length_bytes : bytes.length = 32
  deriving DecidableEq

namespace Digest

def zero : Digest := ⟨List.replicate 32 0, by simp⟩

instance : Inhabited Digest := ⟨zero⟩

instance : Ord Digest := ⟨fun a b => compare a.bytes b.bytes⟩

@[ext] theorem ext {a b : Digest} (h : a.bytes = b.bytes) : a = b := by
  cases a; cases b; simp_all

/-- A digest of exactly these bytes, which must be 32. -/
def ofBytes (bytes : Bytes) : Except ValueError Digest :=
  if h : bytes.length = 32 then .ok ⟨bytes, h⟩ else .error (.invalidLength 32 bytes.length)

/-- The digits of a digest, as bytes of a key or a record. -/
def digits (d : Digest) : Bytes :=
  Hex.encode .upper d.bytes

def text (d : Digest) : String :=
  Hex.text .upper d.bytes

instance : ToString Digest := ⟨text⟩

def ofDigits (digits : Bytes) : Except ValueError Digest :=
  match Hex.decode digits with
  | .ok bytes => ofBytes bytes
  | .error cause => .error (.invalidHex cause)

/-- Reads a text of 64 hexadecimal digits in either case. -/
def ofText (s : String) : Except ValueError Digest :=
  ofDigits (Text.utf8 s)

theorem ofBytes_bytes (d : Digest) : ofBytes d.bytes = .ok d := by
  simp [ofBytes, d.length_bytes]

theorem ofDigits_digits (d : Digest) : ofDigits d.digits = .ok d := by
  simp [ofDigits, digits, Hex.decode_encode, ofBytes_bytes]

theorem utf8_text (d : Digest) : Text.utf8 d.text = d.digits :=
  Hex.utf8_text .upper d.bytes

theorem ofText_text (d : Digest) : ofText d.text = .ok d := by
  rw [ofText, utf8_text, ofDigits_digits]

end Digest

/-! ## Addresses and escrow names -/

/-- The address of an account. -/
structure Address where
  name : String
  deriving DecidableEq, Inhabited

namespace Address

instance : Ord Address := ⟨fun a b => compare a.name b.name⟩

def bytes (a : Address) : Bytes := Text.utf8 a.name

def isEmpty (a : Address) : Bool := a.name.isEmpty

end Address

/-- The name of a two-party escrow, chosen by the party that opens it. -/
structure EscrowId where
  name : String
  deriving DecidableEq, Inhabited

namespace EscrowId

def bytes (id : EscrowId) : Bytes := Text.utf8 id.name

def isEmpty (id : EscrowId) : Bool := id.name.isEmpty

end EscrowId

end Settlement
