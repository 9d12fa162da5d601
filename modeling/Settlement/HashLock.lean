import Settlement.Custody

/-!
# Hash-time-locked contracts

A contract is funded by the timeout party and locked by a digest. Who knows a preimage of the digest may
release it to the redeem party until it expires; from then on the timeout party may take it back: at every
height exactly one of the two exits of an unresolved contract is open. A resolved contract stays as history,
so no digest locks two contracts.

Each message can be checked in itself, before any state is looked at, and names the addresses that must have
signed it. The bank is asked before the record is written.
-/
namespace Settlement.HashLock

/-- Where a contract stands. -/
inductive Status
  | created
  | redeemed
  | failed
  deriving DecidableEq

namespace Status

def text : Status → String
  | created => "created"
  | redeemed => "redeemed"
  | failed => "failed"

def codec : Json.Codec Status :=
  Json.unionCodec [
    .bare "Created" .created (· = .created),
    .bare "Redeemed" .redeemed (· = .redeemed),
    .bare "Failed" .failed (· = .failed)]

end Status

structure Contract where
  amount : Coin
  hash : Digest
  locktime : Height
  redeemAddress : Address
  timeoutAddress : Address
  status : Status
  createdAt : Height
  deriving DecidableEq

namespace Contract

/-- The first height at which the contract is expired. -/
def expiresAt (c : Contract) : Height :=
  Height.addClamped c.createdAt c.locktime

def isExpired (c : Contract) (height : Height) : Bool :=
  c.expiresAt ≤ height

def codec : Json.Codec Contract :=
  Json.recordCodec "Htlc"
    (.field "amount" Coin.codec none <|
      .field "hash" Json.digestCodec none <|
        .field "locktime_blocks" Json.int64Codec none <|
          .field "redeem_address" Json.addressCodec none <|
            .field "timeout_address" Json.addressCodec none <|
              .field "status" Status.codec none <|
                .field "created_at_block" Json.int64Codec none .done)
    (fun c => (c.amount, c.hash, c.locktime, c.redeemAddress, c.timeoutAddress, c.status,
      c.createdAt, ()))
    fun (amount, hash, locktime, redeemAddress, timeoutAddress, status, createdAt, ()) =>
      ⟨amount, hash, locktime, redeemAddress, timeoutAddress, status, createdAt⟩

end Contract

/-- The digest that a preimage unlocks. -/
def lockOf (preimage : Bytes) : Digest :=
  Sha256.digest preimage

def space : Namespace := Namespace.top.child "htlc"

def contractKey (hash : Digest) : Bytes := hash.digits

/-! ## Why messages are refused -/

/-- What is wrong with a message in itself. -/
inductive Complaint
  | amountNotPositive (amount : Coin)
  | locktimeNotPositive (locktime : Height)
  | noParty
  | noPreimage
  | noCaller
  deriving DecidableEq

def Complaint.message : Complaint → String
  | amountNotPositive amount => "amount must be positive, got " ++ amount.text
  | locktimeNotPositive locktime =>
    "locktime must be positive, got " ++ Decimal.signedText locktime.toInt
  | noParty => "party address is empty"
  | noPreimage => "preimage is empty"
  | noCaller => "caller address is empty"

/-- Which role a caller does not have. -/
inductive Refusal
  | notRedeemer (caller : Address) (hash : Digest)
  | notFunder (caller : Address) (hash : Digest)
  deriving DecidableEq

def Refusal.message : Refusal → String
  | notRedeemer caller hash => caller.name ++ " is not the redeem address of " ++ hash.text
  | notFunder caller hash => caller.name ++ " is not the timeout address of " ++ hash.text

inductive Error
  | invalidMessage (complaint : Complaint)
  | duplicateHash (hash : Digest)
  | notFound (hash : Digest)
  | alreadyResolved (hash : Digest) (status : Status)
  | unauthorized (refusal : Refusal)
  | expired (expiresAt current : Height)
  | notYetExpired (expiresAt current : Height)
  | bank (error : BankError)
  | damaged (damage : Damage)
  deriving DecidableEq

namespace Error

def kind : Error → String
  | invalidMessage _ => "InvalidMessage"
  | duplicateHash _ => "DuplicateHash"
  | notFound _ => "NotFound"
  | alreadyResolved .. => "AlreadyResolved"
  | unauthorized _ => "Unauthorized"
  | expired .. => "Expired"
  | notYetExpired .. => "NotYetExpired"
  | bank error => "Bank." ++ error.kind
  | damaged _ => "State.Corrupt"

def message : Error → String
  | invalidMessage complaint => "Invalid message: " ++ complaint.message
  | duplicateHash hash => "HTLC with hash " ++ hash.text ++ " already exists"
  | notFound hash => "HTLC not found: " ++ hash.text
  | alreadyResolved hash status => "HTLC " ++ hash.text ++ " already resolved: " ++ status.text
  | unauthorized refusal => "Unauthorized: " ++ refusal.message
  | expired expiresAt current =>
    "HTLC expired at block " ++ Decimal.signedText expiresAt.toInt ++ ", current block "
      ++ Decimal.signedText current.toInt
  | notYetExpired expiresAt current =>
    "HTLC not expired until block " ++ Decimal.signedText expiresAt.toInt ++ ", current block "
      ++ Decimal.signedText current.toInt
  | bank error => error.message
  | damaged damage => damage.message

def isFatal : Error → Bool
  | damaged _ => true
  | _ => false

end Error

/-! ## Messages -/

/-- Opens a contract, funded by the timeout party. -/
structure Add where
  amount : Coin
  hash : Digest
  locktime : Height
  redeemAddress : Address
  timeoutAddress : Address
  deriving DecidableEq

namespace Add

def validate (m : Add) : Except Error Unit := do
  require (m.amount.isPositive) (.invalidMessage (.amountNotPositive m.amount))
  require (0 < m.locktime) (.invalidMessage (.locktimeNotPositive m.locktime))
  require (¬ m.redeemAddress.isEmpty ∧ ¬ m.timeoutAddress.isEmpty) (.invalidMessage .noParty)

def signers (m : Add) : List Address := [m.timeoutAddress]

def codec : Json.Codec Add :=
  Json.recordCodec "AddHtlc"
    (.field "amount" Coin.codec none <|
      .field "hash" Json.digestCodec none <|
        .field "locktime_blocks" Json.int64Codec none <|
          .field "redeem_address" Json.addressCodec none <|
            .field "timeout_address" Json.addressCodec none .done)
    (fun m => (m.amount, m.hash, m.locktime, m.redeemAddress, m.timeoutAddress, ()))
    fun (amount, hash, locktime, redeemAddress, timeoutAddress, ()) =>
      ⟨amount, hash, locktime, redeemAddress, timeoutAddress⟩

end Add

/-- Releases a contract to the redeem party by revealing a preimage. -/
structure Redeem where
  preimage : Bytes
  caller : Address
  deriving DecidableEq

namespace Redeem

def validate (m : Redeem) : Except Error Unit := do
  require (m.preimage ≠ []) (.invalidMessage .noPreimage)
  require (¬ m.caller.isEmpty) (.invalidMessage .noCaller)

def signers (m : Redeem) : List Address := [m.caller]

def codec : Json.Codec Redeem :=
  Json.recordCodec "RedeemHtlc"
    (.field "preimage" (Json.listCodec Json.byteCodec) none <|
      .field "caller" Json.addressCodec none .done)
    (fun m => (m.preimage, m.caller, ()))
    fun (preimage, caller, ()) => ⟨preimage, caller⟩

end Redeem

/-- Takes an expired contract back. -/
structure Fail where
  hash : Digest
  caller : Address
  deriving DecidableEq

namespace Fail

def validate (m : Fail) : Except Error Unit :=
  require (¬ m.caller.isEmpty) (.invalidMessage .noCaller)

def signers (m : Fail) : List Address := [m.caller]

def codec : Json.Codec Fail :=
  Json.recordCodec "FailHtlc"
    (.field "hash" Json.digestCodec none <|
      .field "caller" Json.addressCodec none .done)
    (fun m => (m.hash, m.caller, ()))
    fun (hash, caller, ()) => ⟨hash, caller⟩

end Fail

/-! ## What is reported -/

structure Created where
  hash : Digest
  amount : Coin
  redeemAddress : Address
  timeoutAddress : Address
  expiresAt : Height
  deriving DecidableEq

def Created.codec : Json.Codec Created :=
  Json.recordCodec "HtlcCreated"
    (.field "hash" Json.digestCodec none <|
      .field "amount" Coin.codec none <|
        .field "redeem_address" Json.addressCodec none <|
          .field "timeout_address" Json.addressCodec none <|
            .field "expires_at" Json.int64Codec none .done)
    (fun e => (e.hash, e.amount, e.redeemAddress, e.timeoutAddress, e.expiresAt, ()))
    fun (hash, amount, redeemAddress, timeoutAddress, expiresAt, ()) =>
      ⟨hash, amount, redeemAddress, timeoutAddress, expiresAt⟩

/-- A contract was released to the redeem party. -/
structure Redeemed where
  hash : Digest
  preimage : Bytes
  redeemAddress : Address
  amount : Coin
  deriving DecidableEq

def Redeemed.codec : Json.Codec Redeemed :=
  Json.recordCodec "HtlcRedeemed"
    (.field "hash" Json.digestCodec none <|
      .field "preimage" (Json.listCodec Json.byteCodec) none <|
        .field "redeem_address" Json.addressCodec none <|
          .field "amount" Coin.codec none .done)
    (fun e => (e.hash, e.preimage, e.redeemAddress, e.amount, ()))
    fun (hash, preimage, redeemAddress, amount, ()) => ⟨hash, preimage, redeemAddress, amount⟩

/-- A contract was taken back by the timeout party. -/
structure Failed where
  hash : Digest
  timeoutAddress : Address
  amount : Coin
  deriving DecidableEq

def Failed.codec : Json.Codec Failed :=
  Json.recordCodec "HtlcFailed"
    (.field "hash" Json.digestCodec none <|
      .field "timeout_address" Json.addressCodec none <|
        .field "amount" Coin.codec none .done)
    (fun e => (e.hash, e.timeoutAddress, e.amount, ()))
    fun (hash, timeoutAddress, amount, ()) => ⟨hash, timeoutAddress, amount⟩

/-! ## Opening, releasing and refunding -/

/-- The contract of a digest, resolved or not. -/
def find (s : Store) (hash : Digest) : Except Error Contract :=
  match space.load Contract.codec s (contractKey hash) with
  | .error damage => .error (.damaged damage)
  | .ok none => .error (.notFound hash)
  | .ok (some contract) => .ok contract

/-- The contract of a digest, which must not be resolved yet. -/
def findOpen (s : Store) (hash : Digest) : Except Error Contract := do
  let contract ← find s hash
  require (contract.status = .created) (.alreadyResolved hash contract.status)
  pure contract

def Add.contract (m : Add) (block : Block) : Contract where
  amount := m.amount
  hash := m.hash
  locktime := m.locktime
  redeemAddress := m.redeemAddress
  timeoutAddress := m.timeoutAddress
  status := .created
  createdAt := block.height

/-- The store with a contract under a digest. -/
def store (s : Store) (hash : Digest) (contract : Contract) : Store :=
  space.put Contract.codec s (contractKey hash) contract

def add (block : Block) (m : Add) : Action Custody Error Created := do
  Action.check m.validate
  let c ← get
  Action.demand (¬ space.has c.store (contractKey m.hash)) (.duplicateHash m.hash)
  Custody.debit .bank m.timeoutAddress m.amount
  let contract := m.contract block
  Custody.write fun s => store s m.hash contract
  pure ⟨contract.hash, contract.amount, contract.redeemAddress, contract.timeoutAddress,
    contract.expiresAt⟩

/-- Releases a contract to the redeem party. -/
def redeem (block : Block) (m : Redeem) : Action Custody Error Redeemed := do
  Action.check m.validate
  let hash := lockOf m.preimage
  let c ← get
  let contract ← Action.check (findOpen c.store hash)
  Action.demand (m.caller = contract.redeemAddress) (.unauthorized (.notRedeemer m.caller hash))
  Action.demand (¬ contract.isExpired block.height) (.expired contract.expiresAt block.height)
  Custody.credit .bank contract.redeemAddress contract.amount
  Custody.write fun s => store s hash { contract with status := .redeemed }
  pure ⟨hash, m.preimage, contract.redeemAddress, contract.amount⟩

/-- Refunds an expired contract to the timeout party. -/
def fail (block : Block) (m : Fail) : Action Custody Error Failed := do
  Action.check m.validate
  let c ← get
  let contract ← Action.check (findOpen c.store m.hash)
  Action.demand (m.caller = contract.timeoutAddress) (.unauthorized (.notFunder m.caller m.hash))
  Action.demand (contract.isExpired block.height) (.notYetExpired contract.expiresAt block.height)
  Custody.credit .bank contract.timeoutAddress contract.amount
  Custody.write fun s => store s m.hash { contract with status := .failed }
  pure ⟨m.hash, contract.timeoutAddress, contract.amount⟩

end Settlement.HashLock
