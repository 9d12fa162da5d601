import Settlement.Ed25519
import Settlement.Transaction

/-!
# Who may spend

The ledger is told its native denomination and how spends of outputs are authorized. A witness is a public
key and a signature, 32 and 64 bytes. A verifier says which signatures are valid and which address a key
speaks for; the ledger takes whatever verifier it is given.

Results:
* `ofBytes?_bytes`: a witness of the right lengths reads back from its bytes.
-/
namespace Settlement

/-! ## Configuration -/

/-- How spends of outputs are authorized. -/
inductive WitnessPolicy
  /-- The signer was authenticated before delivery; witnesses are carried but not looked at. -/
  | envelope
  /-- The input's witness has to be a signature over the transaction's hash by the spender. -/
  | verify
  deriving DecidableEq

def WitnessPolicy.codec : Json.Codec WitnessPolicy :=
  Json.unionCodec [
    .bare "envelope" .envelope (· = .envelope),
    .bare "verify" .verify (· = .verify)]

/-- What the ledger is told at its start. -/
structure Config where
  /-- The only denomination that outputs are born in. -/
  nativeDenom : String := "stake"
  witnessPolicy : WitnessPolicy := .envelope
  deriving DecidableEq

/-- Configurations as records; the policy may be left out. -/
def Config.codec : Json.Codec Config :=
  Json.recordCodec "ModuleConfig"
    (.field "native_denom" Json.textCodec none <|
      .field "witness_policy" WitnessPolicy.codec (some .envelope) .done)
    (fun c => (c.nativeDenom, c.witnessPolicy, ()))
    fun (nativeDenom, witnessPolicy, ()) => ⟨nativeDenom, witnessPolicy⟩

/-! ## Witnesses and verifiers -/

/-- A signature scheme as the ledger sees it. -/
structure Verifier where
  /-- Whether a signature of a message is valid under a key. -/
  verify : (key message signature : Bytes) → Bool
  /-- The address that a key speaks for, if the key is well formed. -/
  addressOf? : (key : Bytes) → Option Address

/-- The address of a key: the digits of the first 20 bytes of its digest. -/
def Address.ofKey (key : Bytes) : Address :=
  ⟨Hex.text .lower ((Sha256.digest key).bytes.take 20)⟩

def Verifier.ed25519 : Verifier where
  verify := Ed25519.verify
  addressOf? key := if key.length = 32 then some (Address.ofKey key) else none

def Ed25519.SigningKey.address (k : Ed25519.SigningKey) : Address :=
  Address.ofKey k.publicKey

structure Witness where
  key : Bytes
  signature : Bytes
  deriving DecidableEq

namespace Witness

def bytes (w : Witness) : Bytes := w.key ++ w.signature

/-- The witness that exactly 96 bytes hold. -/
def ofBytes? (bytes : Bytes) : Option Witness :=
  if bytes.length = 96 then some ⟨bytes.take 32, bytes.drop 32⟩ else none

theorem ofBytes?_bytes {w : Witness} (hk : w.key.length = 32) (hs : w.signature.length = 64) :
    ofBytes? w.bytes = some w := by
  simp [ofBytes?, bytes, hk, hs]

/-- The witness of a message under a signing key. -/
def sign (k : Ed25519.SigningKey) (message : Bytes) : Witness :=
  ⟨k.publicKey, k.sign message⟩

end Witness

/-- The transaction with the signature of its hash as the witness of every input. -/
def Transaction.sign (k : Ed25519.SigningKey) (t : Transaction) : Transaction :=
  let witness := (Witness.sign k t.hash.bytes).bytes
  { t with inputs := t.inputs.map fun i => { i with witness } }

end Settlement
