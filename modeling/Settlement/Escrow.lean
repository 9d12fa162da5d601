import Settlement.Custody

/-!
# Two-party escrows

Party A opens an escrow with its share. Until party B joins with exactly its own share, A may abort and
take its share back; from then on the escrow is locked, and both parties together pay out of it. An
empty locked escrow stays locked.

Each message can be checked in itself, before any state is looked at, and names the addresses that must have
signed it. The bank is asked before the record is written, and everything else is checked before the bank is
asked.
-/
namespace Settlement.Escrow

/-- Where an escrow stands. -/
inductive Stage
  | created
  | locked
  | aborted
  deriving DecidableEq

def Stage.codec : Json.Codec Stage :=
  Json.unionCodec [
    .bare "Created" .created (· = .created),
    .bare "Locked" .locked (· = .locked),
    .bare "Aborted" .aborted (· = .aborted)]

structure Contract where
  id : EscrowId
  stage : Stage
  shareA : Coin
  partyA : Address
  shareB : Coin
  partyB : Address
  balance : Coin
  deriving DecidableEq

def Contract.codec : Json.Codec Contract :=
  Json.recordCodec "EscrowContract"
    (.field "id" Json.escrowIdCodec none <|
      .field "state" Stage.codec none <|
        .field "party_a_amount" Coin.codec none <|
          .field "party_a_address" Json.addressCodec none <|
            .field "party_b_amount" Coin.codec none <|
              .field "party_b_address" Json.addressCodec none <|
                .field "balance" Coin.codec none .done)
    (fun c => (c.id, c.stage, c.shareA, c.partyA, c.shareB, c.partyB, c.balance, ()))
    fun (id, stage, shareA, partyA, shareB, partyB, balance, ()) =>
      ⟨id, stage, shareA, partyA, shareB, partyB, balance⟩

def space : Namespace := Namespace.top.child "multisig"

def contractKey (id : EscrowId) : Bytes := id.bytes

/-! ## Why messages are refused -/

/-- What is wrong with a message in itself. -/
inductive Complaint
  | noId
  | noParty
  | noIdOrCaller
  | noAddress
  deriving DecidableEq

def Complaint.message : Complaint → String
  | noId => "escrow id is empty"
  | noParty => "party address is empty"
  | noIdOrCaller => "escrow id and caller are required"
  | noAddress => "address is empty"

/-- Which amount is not positive. -/
inductive AmountFault
  | share (amount : Coin)
  | payment (amount : Coin)
  deriving DecidableEq

def AmountFault.message : AmountFault → String
  | share amount => "party amounts must be positive, got " ++ amount.text
  | payment amount => "spend amount must be positive, got " ++ amount.text

/-- Which role a caller does not have. -/
inductive Refusal
  | notOpener (id : EscrowId)
  | notJoiner (id : EscrowId)
  | notBoth (id : EscrowId)
  deriving DecidableEq

def Refusal.message : Refusal → String
  | notOpener id => "only party A may abort " ++ id.name
  | notJoiner id => "only party B may join " ++ id.name
  | notBoth id => "spend from " ++ id.name ++ " requires both parties"

inductive Error
  | invalidMessage (complaint : Complaint)
  | duplicateId (id : EscrowId)
  | samePartyAddresses
  | invalidAmount (fault : AmountFault)
  | denomMismatch (left right : String)
  | notFound (id : EscrowId)
  | alreadyJoined (id : EscrowId)
  | notReady (id : EscrowId)
  | unauthorized (refusal : Refusal)
  | amountMismatch (expected actual : Coin)
  | insufficientBalance (requested available : Coin)
  | overflow
  | bank (error : BankError)
  | damaged (damage : Damage)
  deriving DecidableEq

namespace Error

def kind : Error → String
  | invalidMessage _ => "InvalidMessage"
  | duplicateId _ => "DuplicateId"
  | samePartyAddresses => "SamePartyAddresses"
  | invalidAmount _ => "InvalidAmount"
  | denomMismatch .. => "DenomMismatch"
  | notFound _ => "NotFound"
  | alreadyJoined _ => "AlreadyJoined"
  | notReady _ => "NotReady"
  | unauthorized _ => "Unauthorized"
  | amountMismatch .. => "AmountMismatch"
  | insufficientBalance .. => "InsufficientEscrowBalance"
  | overflow => "Overflow"
  | bank error => "Bank." ++ error.kind
  | damaged _ => "State.Corrupt"

def message : Error → String
  | invalidMessage complaint => "Invalid message: " ++ complaint.message
  | duplicateId id => "Escrow contract " ++ id.name ++ " already exists"
  | samePartyAddresses => "Party addresses must differ"
  | invalidAmount fault => "Invalid amount: " ++ fault.message
  | denomMismatch left right => "Denomination mismatch: " ++ left ++ " vs " ++ right
  | notFound id => "Escrow contract not found: " ++ id.name
  | alreadyJoined id => "Escrow contract " ++ id.name ++ " already joined"
  | notReady id => "Escrow contract " ++ id.name ++ " is not locked"
  | unauthorized refusal => "Unauthorized: " ++ refusal.message
  | amountMismatch expected actual =>
    "Amount mismatch: expected " ++ expected.text ++ ", got " ++ actual.text
  | insufficientBalance requested available =>
    "Insufficient escrow balance: requested " ++ requested.text ++ ", available "
      ++ available.text
  | overflow => "Arithmetic overflow in escrow balance"
  | bank error => error.message
  | damaged damage => damage.message

def isFatal : Error → Bool
  | damaged _ => true
  | _ => false

end Error

/-! ## Messages -/

/-- Opens an escrow with party A's share. -/
structure Init where
  id : EscrowId
  shareA : Coin
  partyA : Address
  shareB : Coin
  partyB : Address
  deriving DecidableEq

namespace Init

def validate (m : Init) : Except Error Unit := do
  require (¬ m.id.isEmpty) (.invalidMessage .noId)
  require (¬ m.partyA.isEmpty ∧ ¬ m.partyB.isEmpty) (.invalidMessage .noParty)

def signers (m : Init) : List Address := [m.partyA]

def codec : Json.Codec Init :=
  Json.recordCodec "InitEscrow"
    (.field "id" Json.escrowIdCodec none <|
      .field "party_a_amount" Coin.codec none <|
        .field "party_a_address" Json.addressCodec none <|
          .field "party_b_amount" Coin.codec none <|
            .field "party_b_address" Json.addressCodec none .done)
    (fun m => (m.id, m.shareA, m.partyA, m.shareB, m.partyB, ()))
    fun (id, shareA, partyA, shareB, partyB, ()) => ⟨id, shareA, partyA, shareB, partyB⟩

end Init

/-- Takes party A's share back before party B has joined. -/
structure Abort where
  id : EscrowId
  caller : Address
  deriving DecidableEq

namespace Abort

def validate (m : Abort) : Except Error Unit :=
  require (¬ m.id.isEmpty ∧ ¬ m.caller.isEmpty) (.invalidMessage .noIdOrCaller)

def signers (m : Abort) : List Address := [m.caller]

def codec : Json.Codec Abort :=
  Json.recordCodec "AbortEscrow"
    (.field "id" Json.escrowIdCodec none <|
      .field "caller" Json.addressCodec none .done)
    (fun m => (m.id, m.caller, ()))
    fun (id, caller, ()) => ⟨id, caller⟩

end Abort

/-- Adds party B's share. -/
structure Join where
  id : EscrowId
  caller : Address
  amount : Coin
  deriving DecidableEq

namespace Join

def validate (m : Join) : Except Error Unit :=
  require (¬ m.id.isEmpty ∧ ¬ m.caller.isEmpty) (.invalidMessage .noIdOrCaller)

def signers (m : Join) : List Address := [m.caller]

def codec : Json.Codec Join :=
  Json.recordCodec "JoinEscrow"
    (.field "id" Json.escrowIdCodec none <|
      .field "caller" Json.addressCodec none <|
        .field "amount" Coin.codec none .done)
    (fun m => (m.id, m.caller, m.amount, ()))
    fun (id, caller, amount, ()) => ⟨id, caller, amount⟩

end Join

/-- Pays out of a locked escrow, in the name of both parties. -/
structure Spend where
  id : EscrowId
  amount : Coin
  payee : Address
  callerA : Address
  callerB : Address
  deriving DecidableEq

namespace Spend

def validate (m : Spend) : Except Error Unit := do
  require (¬ m.id.isEmpty) (.invalidMessage .noId)
  require (m.amount.isPositive) (.invalidAmount (.payment m.amount))
  require (¬ m.payee.isEmpty ∧ ¬ m.callerA.isEmpty ∧ ¬ m.callerB.isEmpty)
    (.invalidMessage .noAddress)

def signers (m : Spend) : List Address := [m.callerA, m.callerB]

def codec : Json.Codec Spend :=
  Json.recordCodec "SpendEscrow"
    (.field "id" Json.escrowIdCodec none <|
      .field "amount" Coin.codec none <|
        .field "to_address" Json.addressCodec none <|
          .field "caller_a" Json.addressCodec none <|
            .field "caller_b" Json.addressCodec none .done)
    (fun m => (m.id, m.amount, m.payee, m.callerA, m.callerB, ()))
    fun (id, amount, payee, callerA, callerB, ()) => ⟨id, amount, payee, callerA, callerB⟩

end Spend

/-! ## What is reported -/

structure Created where
  id : EscrowId
  partyA : Address
  partyB : Address
  balance : Coin
  deriving DecidableEq

def Created.codec : Json.Codec Created :=
  Json.recordCodec "EscrowCreated"
    (.field "id" Json.escrowIdCodec none <|
      .field "party_a_address" Json.addressCodec none <|
        .field "party_b_address" Json.addressCodec none <|
          .field "balance" Coin.codec none .done)
    (fun e => (e.id, e.partyA, e.partyB, e.balance, ()))
    fun (id, partyA, partyB, balance, ()) => ⟨id, partyA, partyB, balance⟩

structure Aborted where
  id : EscrowId
  refunded : Coin
  deriving DecidableEq

def Aborted.codec : Json.Codec Aborted :=
  Json.recordCodec "EscrowAborted"
    (.field "id" Json.escrowIdCodec none <|
      .field "refunded" Coin.codec none .done)
    (fun e => (e.id, e.refunded, ()))
    fun (id, refunded, ()) => ⟨id, refunded⟩

structure Joined where
  id : EscrowId
  balance : Coin
  deriving DecidableEq

def Joined.codec : Json.Codec Joined :=
  Json.recordCodec "EscrowJoined"
    (.field "id" Json.escrowIdCodec none <|
      .field "balance" Coin.codec none .done)
    (fun e => (e.id, e.balance, ()))
    fun (id, balance, ()) => ⟨id, balance⟩

structure Spent where
  id : EscrowId
  payee : Address
  amount : Coin
  remaining : Coin
  deriving DecidableEq

def Spent.codec : Json.Codec Spent :=
  Json.recordCodec "EscrowSpent"
    (.field "id" Json.escrowIdCodec none <|
      .field "to_address" Json.addressCodec none <|
        .field "amount" Coin.codec none <|
          .field "remaining" Coin.codec none .done)
    (fun e => (e.id, e.payee, e.amount, e.remaining, ()))
    fun (id, payee, amount, remaining, ()) => ⟨id, payee, amount, remaining⟩

/-! ## Opening, aborting, joining and paying out -/

def find (s : Store) (id : EscrowId) : Except Error Contract :=
  match space.load Contract.codec s (contractKey id) with
  | .error damage => .error (.damaged damage)
  | .ok none => .error (.notFound id)
  | .ok (some contract) => .ok contract

/-- The store with an escrow under a name. -/
def store (s : Store) (id : EscrowId) (contract : Contract) : Store :=
  space.put Contract.codec s (contractKey id) contract

def Init.contract (m : Init) : Contract where
  id := m.id
  stage := .created
  shareA := m.shareA
  partyA := m.partyA
  shareB := m.shareB
  partyB := m.partyB
  balance := m.shareA

def init (m : Init) : Action Custody Error Created := do
  Action.check m.validate
  let c ← get
  Action.demand (¬ space.has c.store (contractKey m.id)) (.duplicateId m.id)
  Action.demand (m.partyA ≠ m.partyB) .samePartyAddresses
  Action.demand (m.shareA.isPositive) (.invalidAmount (.share m.shareA))
  Action.demand (m.shareB.isPositive) (.invalidAmount (.share m.shareB))
  Action.demand (m.shareA.sameDenom m.shareB) (.denomMismatch m.shareA.denom m.shareB.denom)
  Custody.debit .bank m.partyA m.shareA
  let contract := m.contract
  Custody.write fun s => store s m.id contract
  pure ⟨contract.id, contract.partyA, contract.partyB, contract.balance⟩

/-- Aborts an escrow that party B has not joined. -/
def abort (m : Abort) : Action Custody Error Aborted := do
  Action.check m.validate
  let c ← get
  let contract ← Action.check (find c.store m.id)
  Action.demand (contract.stage = .created) (.alreadyJoined m.id)
  Action.demand (m.caller = contract.partyA) (.unauthorized (.notOpener m.id))
  Custody.credit .bank contract.partyA contract.balance
  Custody.write fun s => space.delete s (contractKey m.id)
  pure ⟨contract.id, contract.balance⟩

/-- Joins an escrow as party B, which locks it. -/
def join (m : Join) : Action Custody Error Joined := do
  Action.check m.validate
  let c ← get
  let contract ← Action.check (find c.store m.id)
  Action.demand (contract.stage = .created) (.alreadyJoined m.id)
  Action.demand (m.caller = contract.partyB) (.unauthorized (.notJoiner m.id))
  Action.demand (m.amount = contract.shareB) (.amountMismatch contract.shareB m.amount)
  let balance ← Action.check ((contract.balance.add m.amount).mapError fun _ => .overflow)
  Custody.debit .bank contract.partyB m.amount
  Custody.write fun s => store s m.id { contract with balance, stage := .locked }
  pure ⟨contract.id, balance⟩

def spend (m : Spend) : Action Custody Error Spent := do
  Action.check m.validate
  let c ← get
  let contract ← Action.check (find c.store m.id)
  Action.demand (contract.stage = .locked) (.notReady m.id)
  Action.demand (m.callerA = contract.partyA ∧ m.callerB = contract.partyB)
    (.unauthorized (.notBoth m.id))
  Action.demand (m.amount.sameDenom contract.balance)
    (.denomMismatch contract.balance.denom m.amount.denom)
  let remaining ← Action.check ((contract.balance.sub m.amount).mapError fun _ =>
    .insufficientBalance m.amount contract.balance)
  Custody.credit .bank m.payee m.amount
  Custody.write fun s => store s m.id { contract with balance := remaining }
  pure ⟨contract.id, m.payee, m.amount, remaining⟩

end Settlement.Escrow
